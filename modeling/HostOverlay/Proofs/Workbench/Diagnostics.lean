import HostOverlay.Proofs.Workbench.Answers

/-!
# What a workbench leaves behind

Opening a directory and asking the workbench for its files, for resolutions or for definitions
changes nothing in the world: all that is left behind are diagnostics.  `OnlyTraces x` says so of a
computation `x`; it is closed under what requests are put together with, like `Reads`.
-/

set_option autoImplicit false

namespace HostOverlay

variable {σ α β : Type} [Traced σ]

/-- The world behind the computation is the one before it, with some diagnostics written. -/
def OnlyTraces (x : StateM σ α) : Prop :=
  ∀ s, ∃ ds : List Diagnostic, (x s).2 = ds.foldl (fun s d ↦ Traced.emit d s) s

namespace OnlyTraces

/-- What diagnostics do not change is as before. -/
theorem map_eq {γ : Type} {g : σ → γ} (hg : ∀ d s, g (Traced.emit d s) = g s) {x : StateM σ α}
    (h : OnlyTraces x) (s : σ) : g (x s).2 = g s := by
  obtain ⟨ds, hds⟩ := h s
  rw [hds]
  clear hds
  induction ds generalizing s with
  | nil => rfl
  | cons d ds ih => rw [List.foldl_cons, ih, hg]

protected theorem pure (a : α) : OnlyTraces (pure a : StateM σ α) :=
  fun _ ↦ ⟨[], rfl⟩

protected theorem getDisk [OnDisk σ] : OnlyTraces (getDisk : StateM σ Disk) :=
  fun _ ↦ ⟨[], rfl⟩

protected theorem trace (severity : Severity) (origin text : String) :
    OnlyTraces (trace severity origin text : StateM σ Unit) :=
  fun _ ↦ ⟨[⟨severity, origin, text⟩], rfl⟩

protected theorem bind {x : StateM σ α} (hx : OnlyTraces x) {k : α → StateM σ β}
    (hk : ∀ a, OnlyTraces (k a)) : OnlyTraces (x >>= k) := by
  intro s
  obtain ⟨ds, hds⟩ := hx s
  obtain ⟨ds', hds'⟩ := hk (x s).1 (x s).2
  refine ⟨ds ++ ds', ?_⟩
  rw [List.foldl_append, ← hds]
  exact hds'

protected theorem forM {f : β → StateM σ Unit} (h : ∀ b, OnlyTraces (f b)) (bs : List β) :
    OnlyTraces (bs.forM f) := by
  induction bs with
  | nil => exact .pure ()
  | cons b bs ih => exact (h b).bind fun _ ↦ ih

/-! ## Requests -/

protected theorem lift {x : StateM σ α} (h : OnlyTraces x) :
    OnlyTraces (ExceptT.lift x : Request σ α).run := h

protected theorem liftM {x : StateM σ α} (h : OnlyTraces x) :
    OnlyTraces (liftM x : Request σ α).run := h

protected theorem ofIo (r : Except IoError α) : OnlyTraces (Request.ofIo r : Request σ α).run := by
  cases r with
  | ok a => exact .pure _
  | error e => exact .pure _

protected theorem request_bind {x : Request σ α} (hx : OnlyTraces x.run) {k : α → Request σ β}
    (hk : ∀ a, OnlyTraces (k a).run) : OnlyTraces (x >>= k).run := by
  intro s
  obtain ⟨ds, hds⟩ := hx s
  rcases hrun : x.run s with ⟨a, s'⟩
  rw [hrun] at hds
  cases a with
  | error e =>
    rw [run_bind_of_error k hrun]
    exact ⟨ds, hds⟩
  | ok a =>
    obtain ⟨ds', hds'⟩ := hk a s'
    refine ⟨ds ++ ds', ?_⟩
    rw [run_bind_of_ok k hrun, List.foldl_append, ← hds]
    exact hds'

end OnlyTraces

namespace Workbench

theorem onlyTraces_noteSkipped (root reason : String) :
    OnlyTraces (noteSkipped root reason : StateM σ Unit) :=
  .trace _ _ _

variable [OnDisk σ]

theorem onlyTraces_fileNames (root : String) (logger : Logger σ) :
    OnlyTraces (directoryProject root logger).fileNames := by
  refine OnlyTraces.getDisk.bind fun d ↦ ?_
  cases d.filesUnder root with
  | error e => exact (onlyTraces_noteSkipped _ _).bind fun _ ↦ .pure _
  | ok listing =>
    have hcomplaints : OnlyTraces (noteComplaints root listing.complaints : StateM σ Unit) := by
      cases listing.complaints with
      | nil => exact .pure ()
      | cons c cs => exact onlyTraces_noteSkipped _ _
    exact hcomplaints.bind fun _ ↦
      (OnlyTraces.forM (fun dir ↦ onlyTraces_noteSkipped root _) listing.unlisted).bind
        fun _ ↦ .pure _

theorem onlyTraces_attach (p : Plugin σ) (project : Project σ) (inner : Host σ) (entry : Json) :
    OnlyTraces (p.attach project inner entry).run := by
  refine OnlyTraces.getDisk.lift.request_bind fun _ ↦ (OnlyTraces.ofIo _).request_bind fun _ ↦
    (OnlyTraces.trace _ _ _).lift.request_bind fun _ ↦ ?_
  cases p.capabilitiesFor entry with
  | error cause => exact .pure _
  | ok capabilities => exact .pure _

/-- **Opening a directory leaves nothing behind but diagnostics.** -/
theorem onlyTraces_openAt (path : String) (settings : Settings) :
    OnlyTraces (openAt path settings : Request σ (Workbench σ)).run := by
  refine OnlyTraces.getDisk.lift.request_bind fun d ↦ ?_
  simp only
  cases Path.absolute? d.workingDirectory path with
  | none => exact .pure _
  | some root =>
    exact (onlyTraces_fileNames root .diagnostics).lift.request_bind fun _ ↦
      (onlyTraces_attach _ _ _ _).request_bind fun _ ↦ .pure _

theorem onlyTraces_resolveAll (options : ResolutionOptions) (containing : String)
    (specifiers : List Specifier) :
    OnlyTraces (resolveAll options containing specifiers : StateM σ (List Resolution)) := by
  induction specifiers with
  | nil => exact .pure _
  | cons s rest ih =>
    refine OnlyTraces.getDisk.bind fun d ↦ OnlyTraces.bind ?_ fun _ ↦ ih.bind fun _ ↦ .pure _
    rw [noteUnresolved]
    split
    · exact .trace _ _ _
    · exact .pure ()

section

variable (settings : Settings) (root : String) (files : List String) (home : String)

theorem onlyTraces_externalFiles :
    OnlyTraces (opened settings root files home : Workbench σ).externalFiles :=
  (onlyTraces_fileNames root _).bind fun _ ↦ .pure _

theorem onlyTraces_resolveModuleNames (specifiers : List Specifier) (containing : String)
    (options : ResolutionOptions) :
    OnlyTraces ((opened settings root files home : Workbench σ).host.resolveModuleNames specifiers
      containing options).run := by
  refine (onlyTraces_resolveAll options containing specifiers).lift.request_bind fun found ↦ ?_
  cases redirect specifiers containing found with
  | error cause => exact .pure _
  | ok resolutions => exact .pure _

theorem onlyTraces_definition (path : String) (position : Nat) :
    OnlyTraces ((opened settings root files home : Workbench σ).service.definition path
      position).run :=
  (OnlyTraces.pure _).liftM.request_bind fun _ ↦ (OnlyTraces.trace _ _ _).liftM.request_bind fun _ ↦
    (OnlyTraces.pure _).request_bind fun _ ↦ .pure _

end

end Workbench

end HostOverlay
