import HostOverlay.Proofs.Overlay.Host
import HostOverlay.Workbench.Host
import Mathlib.Tactic.Set

/-!
# Which files an import depends on

The host over a disk reports with every resolution where it has looked: the failed lookups, and the
file it has found.  An editor that watches these paths has to know of nothing else.  As long as the
same ones of them are files, the same batch gives the same answer, whatever else happens to the
disk.

* `firstModule_cons_file`, `firstModule_cons_missing`: the search takes one candidate after the
  other.
* `firstModule_congr`, `resolveOne_congr`: a search that is repeated on another disk takes the same
  course, as long as the disks agree on what the first search has reported.
* `resolveAll_run`: the specifiers of a batch are all looked for on the disk as it is at the
  beginning.  Between two of them only diagnostics are written, and in a `LawfulWorld` these do not
  touch the disk.
* `watched_suffices` puts this together for the host with the layer over it.
-/

set_option autoImplicit false

namespace HostOverlay

/-- The paths that the answer to one specifier depends on: where the host has looked in vain, and
what it has found in the end. -/
def Resolution.watched (r : Resolution) : List String :=
  r.failedLookups ++ (r.module.map ResolvedModule.fileName).toList

namespace Workbench

/-! ## The search for one module -/

section

variable {isFile isFile' : String → Bool} {c : String} (cs : List String)

theorem firstModule_cons_file (h : isFile c = true) :
    firstModule isFile (c :: cs) = ⟨some ⟨c, (Extension.of? c).getD .ts, false⟩, []⟩ := by
  simp [firstModule, h]

theorem firstModule_cons_missing (h : isFile c = false) :
    firstModule isFile (c :: cs) =
      ⟨(firstModule isFile cs).module, c :: (firstModule isFile cs).failedLookups⟩ := by
  simp only [firstModule, List.takeWhile_cons, List.dropWhile_cons, h, Bool.not_false, if_true]
  cases cs.dropWhile fun c ↦ !isFile c with
  | nil => rfl
  | cons found rest => rfl

/-- The search on another disk takes the same course. -/
theorem firstModule_congr (h : ∀ p ∈ (firstModule isFile cs).watched, isFile p = isFile' p) :
    firstModule isFile' cs = firstModule isFile cs := by
  -- the induction is on the candidates; what is watched for the rest is watched for the whole
  induction cs with
  | nil => rfl
  | cons c cs ih =>
    cases hc : isFile c with
    | true =>
      rw [firstModule_cons_file cs hc] at h ⊢
      have hc' : isFile' c = true := by
        rw [← h c (by simp [Resolution.watched]), hc]
      rw [firstModule_cons_file cs hc']
    | false =>
      rw [firstModule_cons_missing cs hc] at h ⊢
      have hc' : isFile' c = false := by
        rw [← h c (by simp [Resolution.watched]), hc]
      rw [firstModule_cons_missing cs hc', ih fun p hp ↦ h p (List.mem_cons_of_mem _ hp)]

end

theorem resolveOne_congr {isFile isFile' : String → Bool} {options : ResolutionOptions}
    {containing : String} {s : Specifier}
    (h : ∀ p ∈ (resolveOne isFile options containing s).watched, isFile p = isFile' p) :
    resolveOne isFile' options containing s = resolveOne isFile options containing s := by
  rw [resolveOne] at h ⊢
  rw [resolveOne]
  split
  · rename_i hfile
    rw [if_pos hfile] at h
    exact firstModule_congr _ h
  · rfl

/-! ## Batches -/

variable {σ : Type} [Traced σ] [OnDisk σ] [LawfulWorld σ]

theorem disk_noteUnresolved (containing : String) (s : Specifier) (r : Resolution) (w : σ) :
    OnDisk.disk (noteUnresolved containing s r w).2 = OnDisk.disk w := by
  rw [noteUnresolved]
  split
  · exact LawfulWorld.disk_emit _ w
  · rfl

/-- Every specifier of a batch is looked for on the same disk. -/
theorem resolveAll_run (options : ResolutionOptions) (containing : String) (ss : List Specifier)
    (w : σ) :
    (resolveAll options containing ss w).1 =
        ss.map (resolveOne (OnDisk.disk w).isFile options containing) ∧
      OnDisk.disk (resolveAll options containing ss w).2 = OnDisk.disk w := by
  induction ss generalizing w with
  | nil => exact ⟨rfl, rfl⟩
  | cons s ss ih =>
    set r := resolveOne (OnDisk.disk w).isFile options containing s with hr
    set w' := (noteUnresolved containing s r w).2
    have hdisk : OnDisk.disk w' = OnDisk.disk w := disk_noteUnresolved containing s r w
    obtain ⟨hvalue, hafter⟩ := ih w'
    rw [hdisk] at hvalue hafter
    have hrun : resolveAll options containing (s :: ss) w =
        (r :: (resolveAll options containing ss w').1,
          (resolveAll options containing ss w').2) := rfl
    rw [hrun, List.map_cons, ← hr]
    exact ⟨by rw [hvalue], hafter⟩

/-- The host looks every specifier of a batch up on its own. -/
theorem run_resolveModuleNames (root : String) (files : List String) (specifiers : List Specifier)
    (containing : String) (options : ResolutionOptions) (w : σ) :
    ((diskHost root files : Host σ).resolveModuleNames specifiers containing options).run w =
      (.ok (specifiers.map (resolveOne (OnDisk.disk w).isFile options containing)),
        (resolveAll options containing specifiers w).2) := by
  rw [← (resolveAll_run options containing specifiers w).1]
  exact Request.run_lift _ w

/-- What the layer over the disk host answers for one specifier. -/
def slot (isFile : String → Bool) (options : ResolutionOptions) (containing : String)
    (s : Specifier) : Resolution :=
  redirectOne containing s (resolveOne isFile options containing s)

theorem slot_foreign {s : Specifier} (h : isForeign s.text = true) (isFile : String → Bool)
    (options : ResolutionOptions) (containing : String) :
    slot isFile options containing s = .resolved (foreignModule s containing) :=
  if_pos h

theorem slot_congr {isFile isFile' : String → Bool} {options : ResolutionOptions}
    {containing : String} {s : Specifier}
    (h : ∀ p ∈ (slot isFile options containing s).watched, isFile p = isFile' p) :
    slot isFile' options containing s = slot isFile options containing s := by
  cases hs : isForeign s.text with
  | true => rw [slot_foreign hs, slot_foreign hs]
  | false =>
    have hother : ∀ f, slot f options containing s = resolveOne f options containing s :=
      fun f ↦ if_neg (by simp [hs])
    rw [hother] at h
    rw [hother, hother, resolveOne_congr h]

/-- **A batch always comes back**, with one slot for each specifier. -/
theorem layer_resolveModuleNames (root : String) (files : List String) (storage : Storage σ)
    (synthesizer : Synthesizer σ) (specifiers : List Specifier) (containing : String)
    (options : ResolutionOptions) (w : σ) :
    (((Overlay.host (diskHost root files) storage synthesizer).resolveModuleNames specifiers
        containing options).run w).1 =
      .ok (specifiers.map (slot (OnDisk.disk w).isFile options containing)) := by
  have hinner := run_resolveModuleNames root files specifiers containing options w
  rw [Overlay.resolveModuleNames_run _ _ _ hinner, Overlay.redirected, redirect, List.length_map,
    if_pos rfl, List.zipWith_map_right, List.zipWith_self]
  rfl

/-- **What a batch reports is all that it depends on.**  When two disks agree on which of the
reported paths are files, the same batch gives the same answer on both; and what it gives for a
foreign specifier does not depend on the disk at all. -/
theorem watched_suffices (root : String) (files : List String) (storage : Storage σ)
    (synthesizer : Synthesizer σ) (specifiers : List Specifier) (containing : String)
    (options : ResolutionOptions) (w₁ w₂ : σ) :
    ∃ answer₁ answer₂ : List Resolution,
      (((Overlay.host (diskHost root files) storage synthesizer).resolveModuleNames specifiers
        containing options).run w₁).1 = .ok answer₁ ∧
      (((Overlay.host (diskHost root files) storage synthesizer).resolveModuleNames specifiers
        containing options).run w₂).1 = .ok answer₂ ∧
      ((∀ r ∈ answer₁, ∀ p ∈ r.watched,
          (OnDisk.disk w₁).isFile p = (OnDisk.disk w₂).isFile p) → answer₂ = answer₁) ∧
      ∀ (i : Nat) (s : Specifier), specifiers[i]? = some s → isForeign s.text = true →
        answer₂[i]? = answer₁[i]? := by
  refine ⟨_, _, layer_resolveModuleNames .., layer_resolveModuleNames .., ?_, ?_⟩
  · intro h
    refine List.map_congr_left fun s hs ↦ slot_congr fun p hp ↦ ?_
    exact h _ (List.mem_map_of_mem hs) p hp
  · intro i s hi hs
    rw [List.getElem?_map, List.getElem?_map, hi, Option.map_some, Option.map_some,
      slot_foreign hs, slot_foreign hs]

/-- A small project before and after a change: `app.ts` is gone, `util.js` and a directory are new,
and `lib/index.d.ts` has become a link to a file. -/
def consoleBefore : Cli.Console where
  disk := ⟨.dir [("src", .dir [("app.ts", .file .empty 0), ("util.ts", .file .empty 0),
    ("lib", .dir [("index.d.ts", .file .empty 0)])])], "/", none⟩

@[inherit_doc consoleBefore]
def consoleAfter : Cli.Console where
  disk := ⟨.dir [("src", .dir [("util.ts", .file .empty 9), ("util.js", .file .empty 0),
    ("gone", .dir []), ("lib", .dir [("index.d.ts", .link "../util.ts")])])], "/",
    none⟩

/-- The answer to a batch on the first of the two disks, which is also the answer on the second:
a module at its first candidate, one in an index file, one that is nowhere, a foreign one and a
package. -/
theorem watched_suffices_after_change :
    let specifiers : List Specifier :=
      [⟨"./util"⟩, ⟨"./lib"⟩, ⟨"./gone"⟩, ⟨"./w.tzen"⟩, ⟨"react"⟩]
    let layer : Host Cli.Console :=
      Overlay.host (diskHost "/" []) Storage.onDisk (Synthesizer.placeholder "")
    let answer : List Resolution :=
      [⟨some ⟨"/src/util.ts", .ts, false⟩, []⟩,
        ⟨some ⟨"/src/lib/index.d.ts", .dts, false⟩,
          ["/src/lib.ts", "/src/lib.ts", "/src/lib.d.ts", "/src/lib/index.ts",
            "/src/lib/index.ts"]⟩,
        ⟨none, ["/src/gone.ts", "/src/gone.ts", "/src/gone.d.ts", "/src/gone/index.ts",
          "/src/gone/index.ts", "/src/gone/index.d.ts"]⟩,
        ⟨some ⟨"/src/w.tzen", .dts, false⟩, []⟩, ⟨none, []⟩]
    (∀ r ∈ answer, ∀ p ∈ r.watched,
        (OnDisk.disk consoleBefore).isFile p = (OnDisk.disk consoleAfter).isFile p) ∧
      ((layer.resolveModuleNames specifiers "/src/app.ts" ⟨[.ts, .ts, .dts]⟩).run
        consoleBefore).1 = .ok answer ∧
      ((layer.resolveModuleNames specifiers "/src/app.ts" ⟨[.ts, .ts, .dts]⟩).run
        consoleAfter).1 = .ok answer := by
  intro specifiers layer answer
  have hagree : ∀ r ∈ answer, ∀ p ∈ r.watched,
      (OnDisk.disk consoleBefore).isFile p = (OnDisk.disk consoleAfter).isFile p := by
    decide +kernel
  have hbefore : ((layer.resolveModuleNames specifiers "/src/app.ts" ⟨[.ts, .ts, .dts]⟩).run
      consoleBefore).1 = .ok answer := by
    rfl
  obtain ⟨answer₁, answer₂, h₁, h₂, hsame, -⟩ := watched_suffices "/" [] Storage.onDisk
    (Synthesizer.placeholder "") specifiers "/src/app.ts" ⟨[.ts, .ts, .dts]⟩ consoleBefore
    consoleAfter
  obtain rfl : answer = answer₁ := Except.ok.inj (hbefore.symm.trans h₁)
  rw [hsame hagree] at h₂
  exact ⟨hagree, hbefore, h₂⟩

end Workbench

end HostOverlay
