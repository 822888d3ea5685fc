import HostOverlay.Proofs.Host.Query
import HostOverlay.Proofs.Overlay.Host
import Mathlib.Data.List.Basic

/-!
# Runs of the layer over a host

The layer keeps nothing between two questions.  So over a whole run, with the world changing in
between as it likes, it is determined by the single questions: which party each of them reaches, and
how the answer comes back.

* `Routed` says what an exchange with the layer may look like.  It has one constructor for each way
  a question can take: on to the host, answered at once, or by way of storage, and then to nobody,
  to the synthesizer or to the host.
* `routed_exchange` is the step: every question takes one of these ways, from every world.
* `Routed.ask`, `Routed.storagePaths` and `Routed.queries` read off such an exchange what it says
  about the plain layer, about storage and about the host.
* `exchanges_historyFree` is about runs.
-/

set_option autoImplicit false

namespace HostOverlay

variable {σ : Type}

/-- Is the question about the kind or the snapshot of a foreign file? -/
def Query.isOwn : Query → Bool
  | .scriptKind path => isForeign path
  | .scriptSnapshot path => isForeign path
  | _ => false

/-- The path, for a question about the snapshot of a foreign file. -/
def Query.foreignSnapshot? : Query → Option String
  | .scriptSnapshot path => if isForeign path then some path else none
  | _ => none

/-- Does the layer keep the question of an exchange from the host?  It does when the question is
about the kind of a foreign file, or about the snapshot of one that storage has or fails on. -/
def Exchange.isKept (storage : Storage σ) (e : Exchange σ) : Bool :=
  match e.query with
  | .scriptKind path => isForeign path
  | .scriptSnapshot path =>
    isForeign path &&
      match (storage.present path e.before).1 with
      | .ok present => present
      | .error _ => true
  | _ => false

namespace Overlay

/-- What becomes of an answer of the host on its way back. -/
def relayed : (q : Query) → q.Answer → q.Answer
  | .resolveModuleNames specifiers containing _, answer => redirected specifiers containing answer
  | _, answer => answer

/-- A question that is not about a foreign file is answered by the host. -/
theorem ask_of_not_isOwn [Traced σ] {inner : Host σ} (storage : Storage σ)
    (synthesizer : Synthesizer σ) {q : Query} (h : q.isOwn = false) {w w' : σ} {a : q.Answer}
    (hask : inner.ask q w = (a, w')) :
    (host inner storage synthesizer).ask q w = (relayed q a, w') := by
  cases q with
  | currentDirectory => exact hask
  | scriptFileNames => exact hask
  | scriptVersion path => exact hask
  | scriptKind path =>
    rw [Host.ask, scriptKind_other _ _ _ h]
    exact hask
  | scriptSnapshot path =>
    rw [Host.ask, scriptSnapshot_other _ _ _ h]
    exact hask
  | resolveModuleNames specifiers containing options =>
    exact resolveModuleNames_run inner storage synthesizer hask
  | fileExists path => exact hask
  | fileContent path => exact hask

/-! ## A single exchange -/

section

variable [Traced σ] (inner : Host σ) (storage : Storage σ) (synthesizer : Synthesizer σ)

/-- The ways that a question to the layer can take.  Each constructor gives the whole exchange: the
answer, the calls that were made, and the worlds they were made in. -/
inductive Routed : Exchange σ → Prop
  /-- The host answers. -/
  | forwarded {q : Query} {w w' : σ} {a : q.Answer} (h : q.isOwn = false)
      (hask : inner.ask q w = (a, w')) :
      Routed ⟨w, q, relayed q a, [.host q a], w'⟩
  /-- The kind of a foreign file needs no call. -/
  | kind {path : String} (w : σ) (h : isForeign path = true) :
      Routed ⟨w, .scriptKind path, ScriptKind.ts, [], w⟩
  /-- Storage fails. -/
  | failed {path : String} {w w' : σ} {e : IoError} (h : isForeign path = true)
      (hs : storage.present path w = (.error e, w')) :
      Routed ⟨w, .scriptSnapshot path, .error (.io e), [.storage path (.error e)], w'⟩
  /-- Storage has the file, and the synthesizer makes its snapshot. -/
  | synthesized {path : String} {w w' w'' : σ} {a : Except Error Snapshot}
      (h : isForeign path = true) (hs : storage.present path w = (.ok true, w'))
      (ha : (synthesizer.synthesize path).run (Traced.emit (servingNote path) w') = (a, w'')) :
      Routed ⟨w, .scriptSnapshot path, some <$> a,
        [.storage path (.ok true), .synthesizer path a], w''⟩
  /-- Storage does not have the file, and the host is asked after all. -/
  | missing {path : String} {w w' w'' : σ} {a : Except Error (Option Snapshot)}
      (h : isForeign path = true) (hs : storage.present path w = (.ok false, w'))
      (ha : (inner.scriptSnapshot path).run w' = (a, w'')) :
      Routed ⟨w, .scriptSnapshot path, a,
        [.storage path (.ok false), .host (.scriptSnapshot path) a], w''⟩

/-- The snapshot of a foreign file takes one of three ways. -/
theorem routed_exchange_scriptSnapshot {path : String} (h : isForeign path = true) (w : σ) :
    Routed inner storage synthesizer
      (exchange (host inner.recorded storage.recorded synthesizer.recorded) (.scriptSnapshot path)
        w) := by
  rcases hs : storage.present path w with ⟨present, w'⟩
  have hs' : storage.recorded.present path ⟨w, []⟩ =
      (present, ⟨w', [.storage path present]⟩) := recording_run hs []
  match present with
  | .error e =>
    rw [exchange_eq (q := .scriptSnapshot path) _ (scriptSnapshot_failed h hs')]
    exact .failed h hs
  | .ok true =>
    rcases ha : (synthesizer.synthesize path).run (Traced.emit (servingNote path) w') with ⟨a, w''⟩
    have ha' : (synthesizer.recorded.synthesize path).run
        (Traced.emit (servingNote path) ⟨w', [.storage path (.ok true)]⟩) =
          (a, ⟨w'', [.storage path (.ok true), .synthesizer path a]⟩) := recording_run ha _
    rw [exchange_eq (q := .scriptSnapshot path) _
      ((scriptSnapshot_present h hs').trans (Request.run_map ha'))]
    exact .synthesized h hs ha
  | .ok false =>
    rcases ha : (inner.scriptSnapshot path).run w' with ⟨a, w''⟩
    have ha' : (inner.recorded.scriptSnapshot path).run ⟨w', [.storage path (.ok false)]⟩ =
        (a, ⟨w'', [.storage path (.ok false), .host (.scriptSnapshot path) a]⟩) :=
      recording_run ha _
    rw [exchange_eq (q := .scriptSnapshot path) _ ((scriptSnapshot_absent h hs').trans ha')]
    exact .missing h hs ha

/-- **Every question takes one of the ways**, whatever the world is like when it is asked. -/
theorem routed_exchange (q : Query) (w : σ) :
    Routed inner storage synthesizer
      (exchange (host inner.recorded storage.recorded synthesizer.recorded) q w) := by
  cases hown : q.isOwn with
  | false =>
    rcases hask : inner.ask q w with ⟨a, w'⟩
    have hask' : inner.recorded.ask q ⟨w, []⟩ = (a, ⟨w', [.host q a]⟩) := by
      rw [Host.ask_recorded]
      exact recording_run hask []
    rw [exchange_eq _ (ask_of_not_isOwn _ _ hown hask')]
    exact .forwarded hown hask
  | true =>
    cases q with
    | scriptKind path =>
      have hask : (host inner.recorded storage.recorded synthesizer.recorded).ask
          (.scriptKind path) ⟨w, []⟩ = (ScriptKind.ts, ⟨w, []⟩) := by
        rw [Host.ask, scriptKind_foreign _ _ _ hown]
        rfl
      rw [exchange_eq _ hask]
      exact .kind w hown
    | scriptSnapshot path => exact routed_exchange_scriptSnapshot _ _ _ hown w
    | _ => cases hown

end

namespace Routed

variable [Traced σ] {inner : Host σ} {storage : Storage σ} {synthesizer : Synthesizer σ}
  {e : Exchange σ}

/-- The plain layer answers the same and leaves the same world. -/
theorem ask (h : Routed inner storage synthesizer e) :
    (host inner storage synthesizer).ask e.query e.before = (e.answer, e.after) := by
  cases h with
  | forwarded h hask => exact ask_of_not_isOwn storage synthesizer h hask
  | kind w h =>
    rw [Host.ask, scriptKind_foreign _ _ _ h]
    rfl
  | failed h hs => exact scriptSnapshot_failed h hs
  | synthesized h hs ha => exact (scriptSnapshot_present h hs).trans (Request.run_map ha)
  | missing h hs ha => exact (scriptSnapshot_absent h hs).trans ha

/-- Storage is asked once about the snapshot of a foreign file, and about nothing else. -/
theorem storagePaths (h : Routed inner storage synthesizer e) :
    e.calls.filterMap Call.storagePath? = e.query.foreignSnapshot?.toList := by
  cases h with
  | @forwarded q w w' a h hask =>
    cases q with
    | scriptSnapshot path =>
      have hpath : isForeign path = false := h
      simp [Call.storagePath?, Query.foreignSnapshot?, hpath]
    | _ => rfl
  | kind w h => rfl
  | failed h hs => simp [Call.storagePath?, Query.foreignSnapshot?, h]
  | synthesized h hs ha => simp [Call.storagePath?, Query.foreignSnapshot?, h]
  | missing h hs ha => simp [Call.storagePath?, Query.foreignSnapshot?, h]

/-- The host is asked the same question once, unless the layer keeps it. -/
theorem queries (h : Routed inner storage synthesizer e) :
    e.calls.filterMap Call.query? = if e.isKept storage then [] else [e.query] := by
  cases h with
  | @forwarded q w w' a h hask =>
    have hkept : Exchange.isKept storage ⟨w, q, relayed q a, [.host q a], w'⟩ = false := by
      cases q with
      | scriptKind path => exact h
      | scriptSnapshot path => simp only [Exchange.isKept, show isForeign path = false from h,
          Bool.false_and]
      | _ => rfl
    simp [Call.query?, hkept]
  | kind w h => simp [Exchange.isKept, h]
  | failed h hs => simp [Call.query?, Exchange.isKept, h, hs]
  | synthesized h hs ha => simp [Call.query?, Exchange.isKept, h, hs]
  | missing h hs ha =>
    simp only [Exchange.isKept, h, hs]
    rfl

end Routed

/-! ## Runs -/

section

variable [Traced σ] {inner : Host σ} {storage : Storage σ} {synthesizer : Synthesizer σ}
  {es : List (Exchange σ)} (h : ∀ e ∈ es, Routed inner storage synthesizer e)

include h

/-- The calls that reach storage in a row of exchanges. -/
theorem storagePaths_of_routed :
    (es.flatMap Exchange.calls).filterMap Call.storagePath? =
      (es.map Exchange.query).filterMap Query.foreignSnapshot? := by
  rw [List.filterMap_flatMap, List.flatMap_congr fun e he ↦ (h e he).storagePaths,
    List.filterMap_map, List.filterMap_eq_flatMap_toList]
  rfl

/-- The calls that reach the host in a row of exchanges. -/
theorem queries_of_routed :
    (es.flatMap Exchange.calls).filterMap Call.query? =
      (es.filter fun e ↦ !e.isKept storage).map Exchange.query := by
  induction es with
  | nil => rfl
  | cons e es ih =>
    rw [List.flatMap_cons, List.filterMap_append, (h e List.mem_cons_self).queries,
      ih fun e he ↦ h e (List.mem_cons_of_mem _ he), List.filter_cons]
    cases e.isKept storage with
    | true => rfl
    | false => rfl

end

variable [Traced σ] (inner : Host σ) (storage : Storage σ) (synthesizer : Synthesizer σ)

/-- **The layer keeps no history.**  Take any host, storage and synthesizer, and any run of
questions with the world changing in between.  Storage is called once for each question about the
snapshot of a foreign file, and the host once for each question that the layer does not keep, in the
order and with the arguments of the questions.  Each single question takes one of the ways of
`Routed` and gets the answer that the layer would give, in that world, to the first question ever
asked. -/
theorem exchanges_historyFree (steps : List (Step σ)) (w : σ) :
    let run := exchanges (host inner.recorded storage.recorded synthesizer.recorded) steps w
    run.map Exchange.query = steps.filterMap Step.query? ∧
    (run.flatMap Exchange.calls).filterMap Call.storagePath? =
      (steps.filterMap Step.query?).filterMap Query.foreignSnapshot? ∧
    (run.flatMap Exchange.calls).filterMap Call.query? =
      (run.filter fun e ↦ !e.isKept storage).map Exchange.query ∧
    ∀ e ∈ run, Routed inner storage synthesizer e ∧
      (host inner storage synthesizer).ask e.query e.before = (e.answer, e.after) := by
  intro run
  have hqueries : run.map Exchange.query = steps.filterMap Step.query? := map_query_exchanges _ _ _
  have hrouted : ∀ e ∈ run, Routed inner storage synthesizer e :=
    forall_mem_exchanges _ _ _ fun q w ↦ routed_exchange inner storage synthesizer q w
  refine ⟨hqueries, ?_, ?_, fun e he ↦ ⟨hrouted e he, (hrouted e he).ask⟩⟩
  · rw [← hqueries]
    exact storagePaths_of_routed hrouted
  · exact queries_of_routed hrouted

end Overlay

end HostOverlay
