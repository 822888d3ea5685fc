import HostOverlay.Proofs.Overlay.Redirect
import HostOverlay.Proofs.Overlay.Run
import HostOverlay.Proofs.Script.Batch

/-!
# The layer over a layer

Nothing keeps a project from being attached to twice.  The second layer then stands over a host that
is a layer already, with the same storage and the same synthesizer under both.  This module shows
that it makes no difference to any answer.

The one party that notices is storage: a foreign file that is not there is asked for twice, first by
the outer layer and then by the inner one.  So storage must be a read-only view, one whose answers
do not change when it is asked.  It may keep books about that, as long as nobody else looks at them.
`IsView` says so with a relation `Alike` between worlds that differ in nothing that matters.  When
asking leaves no trace at all, worlds are alike when they are equal, and nothing is asked of the
other parties (`isView_eq`).

* `ask_layered_twice`: the single question.
* `answers_layered_twice`: a run of questions, by induction.
* `ask_host_host` is the result for both.
-/

set_option autoImplicit false

namespace HostOverlay

variable {σ α : Type}

/-! ## Worlds that are alike -/

/-- The computation cannot tell alike worlds apart: it answers the same in both and leaves alike
worlds behind. -/
def Respects (Alike : σ → σ → Prop) (x : StateM σ α) : Prop :=
  ∀ ⦃w w' : σ⦄, Alike w w' → (x w).1 = (x w').1 ∧ Alike (x w).2 (x w').2

theorem respects_eq (x : StateM σ α) : Respects Eq x := by
  rintro w _ rfl
  exact ⟨rfl, rfl⟩

/-- The world that the computation leaves in the second of two alike worlds, when one knows what it
does in the first. -/
theorem Respects.exists_run {Alike : σ → σ → Prop} {x : StateM σ α} (h : Respects Alike x)
    {w w' v : σ} {a : α} (hw : Alike w w') (hrun : x w = (a, v)) :
    ∃ v', x w' = (a, v') ∧ Alike v v' := by
  obtain ⟨hanswer, hafter⟩ := h hw
  rw [hrun] at hanswer hafter
  exact ⟨(x w').2, Prod.ext hanswer.symm rfl, hafter⟩

/-- What is written down about a call is no part of what the call does. -/
theorem respects_recording (call : α → Call) (x : StateM σ α) :
    Respects (fun r r' : Recorded σ ↦ r.world = r'.world) (recording call x) := by
  intro r r' h
  simp only [recording, h]
  exact ⟨trivial, trivial⟩

namespace Overlay

variable [Traced σ]

/-- The parties under a layer cannot tell alike worlds apart, and asking storage leaves a world that
is alike. -/
structure IsView (Alike : σ → σ → Prop) (inner : Host σ) (storage : Storage σ)
    (synthesizer : Synthesizer σ) : Prop where
  equivalence : Equivalence Alike
  emit : ∀ (d : Diagnostic) {w w' : σ}, Alike w w' → Alike (Traced.emit d w) (Traced.emit d w')
  respectsInner : ∀ q, Respects Alike (inner.ask q)
  respectsSynthesizer : ∀ path, Respects Alike (synthesizer.synthesize path).run
  respectsStorage : ∀ path, Respects Alike (storage.present path)
  readOnly : ∀ path w, Alike w (storage.present path w).2

/-- Storage that leaves the world as it is is read-only for any host and synthesizer. -/
theorem isView_eq {storage : Storage σ} (h : ∀ path w, (storage.present path w).2 = w)
    (inner : Host σ) (synthesizer : Synthesizer σ) : IsView Eq inner storage synthesizer where
  equivalence := ⟨fun _ ↦ rfl, Eq.symm, Eq.trans⟩
  emit d _ _ hw := congrArg (Traced.emit d) hw
  respectsInner _ := respects_eq _
  respectsSynthesizer _ := respects_eq _
  respectsStorage _ := respects_eq _
  readOnly path w := (h path w).symm

/-- It still is when every party writes down what it is asked. -/
theorem isView_recorded {storage : Storage σ} (h : ∀ path w, (storage.present path w).2 = w)
    (inner : Host σ) (synthesizer : Synthesizer σ) :
    IsView (fun r r' ↦ r.world = r'.world) inner.recorded storage.recorded
      synthesizer.recorded where
  equivalence := ⟨fun _ ↦ rfl, Eq.symm, Eq.trans⟩
  emit d _ _ hw := congrArg (Traced.emit d) hw
  respectsInner q := by
    rw [Host.ask_recorded]
    exact respects_recording _ _
  respectsSynthesizer path := respects_recording _ _
  respectsStorage path := respects_recording _ _
  readOnly path r := (h path r.world).symm

/-! ## One question -/

section

variable {Alike : σ → σ → Prop} {inner : Host σ} {storage : Storage σ}
  {synthesizer : Synthesizer σ}

theorem relayed_relayed (q : Query) (a : q.Answer) : relayed q (relayed q a) = relayed q a := by
  cases q with
  | resolveModuleNames specifiers containing options =>
    simp only [relayed]
    cases a with
    | error e => rfl
    | ok found =>
      simp only [redirected]
      cases h : redirect specifiers containing found with
      | error cause => rfl
      | ok resolutions => simp only [redirect_redirect h]
  | _ => rfl

/-- A question that is not about a foreign file goes through both layers to the host. -/
theorem ask_layered_twice_other (h : IsView Alike inner storage synthesizer) {q : Query}
    (hq : q.isOwn = false) {w w' : σ} (hw : Alike w w') :
    ∃ a v v', (host (host inner storage synthesizer) storage synthesizer).ask q w = (a, v) ∧
      (host inner storage synthesizer).ask q w' = (a, v') ∧ Alike v v' := by
  rcases hask : inner.ask q w with ⟨a, v⟩
  obtain ⟨v', hask', hv⟩ := (h.respectsInner q).exists_run hw hask
  have htwice := ask_of_not_isOwn storage synthesizer hq
    (ask_of_not_isOwn storage synthesizer hq hask)
  rw [relayed_relayed] at htwice
  exact ⟨_, _, _, htwice, ask_of_not_isOwn storage synthesizer hq hask', hv⟩

/-- The snapshot of a foreign file: only when storage does not have it, the inner layer is asked
at all, and storage then says the same once more. -/
theorem scriptSnapshot_layered_twice (h : IsView Alike inner storage synthesizer) {path : String}
    (hpath : isForeign path = true) {w w' : σ} (hw : Alike w w') :
    ∃ a v v', ((host (host inner storage synthesizer) storage synthesizer).scriptSnapshot
        path).run w = (a, v) ∧
      ((host inner storage synthesizer).scriptSnapshot path).run w' = (a, v') ∧ Alike v v' := by
  rcases hs : storage.present path w with ⟨present, v⟩
  obtain ⟨v', hs', hv⟩ := (h.respectsStorage path).exists_run hw hs
  match present with
  | .error e => exact ⟨_, _, _, scriptSnapshot_failed hpath hs, scriptSnapshot_failed hpath hs', hv⟩
  | .ok true =>
    rcases ha : (synthesizer.synthesize path).run (Traced.emit (servingNote path) v) with ⟨a, u⟩
    obtain ⟨u', ha', hu⟩ :=
      (h.respectsSynthesizer path).exists_run (h.emit (servingNote path) hv) ha
    exact ⟨_, _, _, (scriptSnapshot_present hpath hs).trans (Request.run_map ha),
      (scriptSnapshot_present hpath hs').trans (Request.run_map ha'), hu⟩
  | .ok false =>
    -- the inner layer asks storage in the world that the outer one has left, which is alike
    have hread : Alike w v := by simpa only [hs] using h.readOnly path w
    obtain ⟨u, hs₂, hu⟩ := (h.respectsStorage path).exists_run hread hs
    have huv' : Alike u v' := h.equivalence.trans (h.equivalence.symm hu) hv
    rcases ha : (inner.scriptSnapshot path).run u with ⟨a, t⟩
    obtain ⟨t', ha', ht⟩ := (h.respectsInner (.scriptSnapshot path)).exists_run huv' ha
    exact ⟨a, t, t', (scriptSnapshot_absent hpath hs).trans
      ((scriptSnapshot_absent hpath hs₂).trans ha), (scriptSnapshot_absent hpath hs').trans ha', ht⟩

/-- Two layers give the answer of one, in alike worlds, and leave alike worlds behind. -/
theorem ask_layered_twice (h : IsView Alike inner storage synthesizer) (q : Query) {w w' : σ}
    (hw : Alike w w') :
    ((host (host inner storage synthesizer) storage synthesizer).ask q w).1 =
        ((host inner storage synthesizer).ask q w').1 ∧
      Alike ((host (host inner storage synthesizer) storage synthesizer).ask q w).2
        ((host inner storage synthesizer).ask q w').2 := by
  cases hq : q.isOwn with
  | false =>
    obtain ⟨a, v, v', htwice, honce, hv⟩ := ask_layered_twice_other h hq hw
    rw [htwice, honce]
    exact ⟨rfl, hv⟩
  | true =>
    cases q with
    | scriptKind path =>
      rw [Host.ask, Host.ask, scriptKind_foreign _ _ _ hq, scriptKind_foreign _ _ _ hq]
      exact ⟨rfl, hw⟩
    | scriptSnapshot path =>
      obtain ⟨a, v, v', htwice, honce, hv⟩ := scriptSnapshot_layered_twice h hq hw
      rw [Host.ask, Host.ask, htwice, honce]
      exact ⟨rfl, hv⟩
    | _ => cases hq

end

/-! ## Runs -/

/-- The answers of a host along a run, each with its question. -/
def answers (h : Host σ) : List (Step σ) → σ → List ((q : Query) × q.Answer)
  | [], _ => []
  | .ask q :: steps, w => ⟨q, (h.ask q w).1⟩ :: answers h steps (h.ask q w).2
  | .change f :: steps, w => answers h steps (f w)

/-- What changes the world between two questions makes the same of alike worlds. -/
def IsFair (Alike : σ → σ → Prop) (steps : List (Step σ)) : Prop :=
  ∀ f, .change f ∈ steps → ∀ ⦃w w' : σ⦄, Alike w w' → Alike (f w) (f w')

theorem answers_layered_twice {Alike : σ → σ → Prop} {inner : Host σ} {storage : Storage σ}
    {synthesizer : Synthesizer σ} (h : IsView Alike inner storage synthesizer)
    {steps : List (Step σ)} (hsteps : IsFair Alike steps) {w w' : σ} (hw : Alike w w') :
    answers (host (host inner storage synthesizer) storage synthesizer) steps w =
      answers (host inner storage synthesizer) steps w' := by
  induction steps generalizing w w' with
  | nil => rfl
  | cons s steps ih =>
    have hrest : IsFair Alike steps := fun f hf ↦ hsteps f (List.mem_cons_of_mem _ hf)
    cases s with
    | ask q =>
      obtain ⟨hanswer, hafter⟩ := ask_layered_twice h q hw
      rw [answers, answers, hanswer, ih hrest hafter]
    | change f => exact ih hrest (hsteps f List.mem_cons_self hw)

/-- **Attaching twice is attaching once.**  Take any host and synthesizer, and storage that can be
asked without any of them seeing a difference.  Then a layer over a layer answers every question in
every world as a single layer does, failures included, and leaves a world that is alike.  So the two
answer alike along every run. -/
theorem ask_host_host {Alike : σ → σ → Prop} {inner : Host σ} {storage : Storage σ}
    {synthesizer : Synthesizer σ} (h : IsView Alike inner storage synthesizer) :
    (∀ (q : Query) (w : σ),
      ((host (host inner storage synthesizer) storage synthesizer).ask q w).1 =
          ((host inner storage synthesizer).ask q w).1 ∧
        Alike ((host (host inner storage synthesizer) storage synthesizer).ask q w).2
          ((host inner storage synthesizer).ask q w).2) ∧
    ∀ (steps : List (Step σ)) (w : σ), IsFair Alike steps →
      answers (host (host inner storage synthesizer) storage synthesizer) steps w =
        answers (host inner storage synthesizer) steps w :=
  ⟨fun q w ↦ ask_layered_twice h q (h.equivalence.refl w),
    fun _ w hsteps ↦ answers_layered_twice h hsteps (h.equivalence.refl w)⟩

/-- A console on which every party writes down what it is asked. -/
def recordedConsole : Recorded Cli.Console := ⟨bareConsole, []⟩

/-- A layer over a disk without files, where every party writes down what it is asked. -/
def recordedLayer (inner : Host (Recorded Cli.Console)) : Host (Recorded Cli.Console) :=
  host inner Storage.onDisk.recorded (Synthesizer.placeholder "export type A = 1;").recorded

/-- The snapshot of a foreign file that is not there.  Storage is asked once by one layer and twice
by two of them, and there is no snapshot in either case. -/
theorem ask_host_host_of_gone :
    let plain : Host (Recorded Cli.Console) := (Workbench.diskHost "/" []).recorded
    let gone : Query := .scriptSnapshot "/gone.tzen"
    IsView (fun r r' : Recorded Cli.Console ↦ r.world = r'.world) plain Storage.onDisk.recorded
        (Synthesizer.placeholder "export type A = 1;").recorded ∧
      ((recordedLayer (recordedLayer plain)).ask gone recordedConsole).1 = .ok none ∧
      ((recordedLayer plain).ask gone recordedConsole).2.calls.filterMap Call.storagePath? =
        ["/gone.tzen"] ∧
      ((recordedLayer (recordedLayer plain)).ask gone recordedConsole).2.calls.filterMap
        Call.storagePath? = ["/gone.tzen", "/gone.tzen"] := by
  intro plain gone
  have honDisk : ∀ path (c : Cli.Console), (Storage.onDisk.present path c).2 = c := fun _ _ ↦ rfl
  have hview := isView_recorded honDisk (Workbench.diskHost "/" [])
    (Synthesizer.placeholder "export type A = 1;")
  have honce : ((recordedLayer plain).ask gone recordedConsole).1 = .ok none := by rfl
  have htwice := ((ask_host_host hview).1 gone recordedConsole).1
  exact ⟨hview, htwice.trans honce, by rfl, by rfl⟩

end Overlay

end HostOverlay
