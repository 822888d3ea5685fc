import HostOverlay.Overlay.Basic
import HostOverlay.Proofs.Host.Request

/-!
# What the layer over a host does with each question

One lemma for each way in which `Overlay.host` answers a question about a foreign file, or about any
other one.  All of them are about a single question, asked in some world: which party is asked, in
which world, and what becomes of its answer.

* A kind is never asked for when the file is foreign.
* A snapshot of a foreign file is asked of storage first, and its answer decides who is asked next:
  nobody after a failure, the synthesizer when the file is there, the host when it is not.
* A batch of specifiers always goes to the host, and `redirect` gets the answer.
-/

set_option autoImplicit false

namespace HostOverlay.Overlay

variable {σ : Type} [Traced σ] (inner : Host σ) (storage : Storage σ) (synthesizer : Synthesizer σ)

/-- The line that is written when a snapshot is synthesized. -/
def servingNote (path : String) : Diagnostic :=
  ⟨.debug, "tzen_bridge::plugin::host_interceptor", "Serving synthesized snapshot for " ++ path⟩

/-! ## Kinds -/

theorem scriptKind_foreign {path : String} (h : isForeign path = true) :
    (host inner storage synthesizer).scriptKind path = pure .ts :=
  if_pos h

theorem scriptKind_other {path : String} (h : isForeign path = false) :
    (host inner storage synthesizer).scriptKind path = inner.scriptKind path :=
  if_neg (by simp [h])

/-! ## Snapshots -/

theorem scriptSnapshot_other {path : String} (h : isForeign path = false) :
    (host inner storage synthesizer).scriptSnapshot path = inner.scriptSnapshot path :=
  if_neg (by simp [h])

section

variable {inner storage synthesizer} {path : String} (h : isForeign path = true) {w w' : σ}

include h

/-- Storage fails: so does the question, and nobody else is asked. -/
theorem scriptSnapshot_failed {e : IoError} (hs : storage.present path w = (.error e, w')) :
    ((host inner storage synthesizer).scriptSnapshot path).run w = (.error (.io e), w') := by
  simp only [host, h, if_true]
  exact run_bind_of_ok _ (Request.run_liftM hs)

/-- The file is there: the synthesizer makes the snapshot, after a line about it. -/
theorem scriptSnapshot_present (hs : storage.present path w = (.ok true, w')) :
    ((host inner storage synthesizer).scriptSnapshot path).run w =
      (some <$> synthesizer.synthesize path).run (Traced.emit (servingNote path) w') := by
  simp only [host, h, if_true]
  refine (run_bind_of_ok _ (Request.run_liftM hs)).trans ?_
  exact run_bind_of_ok _ (Request.run_trace _ _ _ _)

/-- The file is not there: the host is asked, in the world that storage has left. -/
theorem scriptSnapshot_absent (hs : storage.present path w = (.ok false, w')) :
    ((host inner storage synthesizer).scriptSnapshot path).run w =
      (inner.scriptSnapshot path).run w' := by
  simp only [host, h, if_true]
  exact run_bind_of_ok _ (Request.run_liftM hs)

end

/-! ## Imports -/

/-- What `redirect` makes of the answer to a batch. -/
def redirected (specifiers : List Specifier) (containing : String) :
    Except Error (List Resolution) → Except Error (List Resolution)
  | .ok found =>
    match redirect specifiers containing found with
    | .ok resolutions => .ok resolutions
    | .error cause => .error (.resolutionMismatch cause)
  | .error e => .error e

/-- A batch goes to the host as it is, and `redirect` sees the answer. -/
theorem resolveModuleNames_run {specifiers : List Specifier} {containing : String}
    {options : ResolutionOptions} {w w' : σ} {answer : Except Error (List Resolution)}
    (h : (inner.resolveModuleNames specifiers containing options).run w = (answer, w')) :
    ((host inner storage synthesizer).resolveModuleNames specifiers containing options).run w =
      (redirected specifiers containing answer, w') := by
  cases answer with
  | error e => exact run_bind_of_error _ h
  | ok found =>
    refine (run_bind_of_ok _ h).trans ?_
    simp only [redirected]
    cases redirect specifiers containing found with
    | error cause => rfl
    | ok resolutions => rfl

/-- A batch that comes back is what `redirect` has made of the host's. -/
theorem exists_of_redirected {specifiers : List Specifier} {containing : String}
    {answer : Except Error (List Resolution)} {resolutions : List Resolution}
    (h : redirected specifiers containing answer = .ok resolutions) :
    ∃ found, redirect specifiers containing found = .ok resolutions := by
  cases answer with
  | error e => cases h
  | ok found =>
    simp only [redirected] at h
    split at h
    · rename_i hfound
      obtain rfl := Except.ok.inj h
      exact ⟨found, hfound⟩
    · cases h

end HostOverlay.Overlay
