import HostOverlay.Overlay.Plugin
import HostOverlay.Proofs.Overlay.Redirect
import HostOverlay.Proofs.Settings.Entry
import HostOverlay.Workbench.Basic

/-!
# Attaching a plugin to projects

A project gets its capabilities from two sources.  The plugin was built from choices made one after
the other, and the entry in the configuration of the project may replace what they came to.

* `build_eq`: the last choice for a capability wins.
* `capabilitiesFor_cases`: an entry is refused, or each of its keys replaces one capability.
* `run_attach_of_ok`, `run_attach_of_error`: attaching gives the layer with those capabilities, or
  fails, and leaves nothing but a line about it.
* `attempts_isSettledBy`: so it is along every run in which a plugin is attached to many projects.
  None of them makes a difference to another.
* `attach_entry_eq_iff`: the same settings can be given to the plugin or written into the entry.
  This comes to the same only if the entry is an object.  An array is read as settings too, but as
  it has no keys, it replaces nothing.
-/

set_option autoImplicit false

namespace HostOverlay

/-- Every project has a root. -/
theorem Context.exists_rootOf (workingDirectory projectName : String) :
    ∃ root, Context.rootOf workingDirectory projectName = .ok root := by
  have hne : Context.rootPath projectName ≠ "" := by
    rw [Context.rootPath]
    split
    · split
      · decide
      · assumption
    · decide
  rw [Context.rootOf, Path.absolute?, if_neg hne]
  exact ⟨_, rfl⟩

namespace Plugin

variable {σ α : Type}

/-! ## What the choices come to -/

/-- The storage that a choice sets. -/
def Choice.storage? : Choice σ → Option (Storage σ)
  | .storage s => some s
  | _ => none

/-- The synthesizer that a choice sets; settings set one, too. -/
def Choice.synthesizer? [Traced σ] : Choice σ → Option (Synthesizer σ)
  | .settings s => some (.placeholder s.placeholderSource)
  | .synthesizer s => some s
  | _ => none

/-- The resolver that a choice sets; settings set one, too. -/
def Choice.resolver? : Choice σ → Option (DefinitionResolver σ)
  | .settings s => some (.fixed s.definitionFile)
  | .resolver r => some r
  | _ => none

/-- What the last of the choices that set a capability sets it to; `stock` when none of them
does. -/
def lastSet (set? : Choice σ → Option α) (stock : α) (choices : List (Choice σ)) : α :=
  (choices.reverse.findSome? set?).getD stock

/-- A part of a builder that each choice either sets or leaves is what the last choice that sets it
has set it to. -/
theorem get_foldl_choose [Traced σ] {get : Builder σ → Option α} {set? : Choice σ → Option α}
    (h : ∀ b c, get (b.choose c) = (set? c).or (get b)) (choices : List (Choice σ)) :
    ∀ b, get (choices.foldl Builder.choose b) =
      (choices.reverse.findSome? set?).or (get b) := by
  induction choices with
  | nil => simp
  | cons c cs ih =>
    intro b
    rw [List.foldl_cons, ih, h, List.reverse_cons, List.findSome?_append, Option.or_assoc]
    congr 2
    simp

/-- The same with what is taken for a part that no choice sets, from a builder that has made no
choice yet. -/
theorem getD_foldl_choose [Traced σ] {get : Builder σ → Option α} {set? : Choice σ → Option α}
    (h : ∀ b c, get (b.choose c) = (set? c).or (get b)) (hempty : get {} = none) (stock : α)
    (choices : List (Choice σ)) :
    (get (choices.foldl Builder.choose {})).getD stock = lastSet set? stock choices := by
  rw [get_foldl_choose h, hempty, Option.or_none, lastSet]

variable [Traced σ] [OnDisk σ]

/-- **The last choice wins.** -/
theorem build_eq (factory : ServiceFactory σ) (choices : List (Choice σ)) :
    build factory choices =
      { factory
        storage := lastSet Choice.storage? .onDisk choices
        synthesizer := lastSet Choice.synthesizer?
          (.placeholder ({} : Settings).placeholderSource) choices
        resolver := lastSet Choice.resolver? (.fixed ({} : Settings).definitionFile) choices } := by
  simp only [build, mk.injEq, true_and]
  refine ⟨getD_foldl_choose ?_ rfl _ _, getD_foldl_choose ?_ rfl _ _, getD_foldl_choose ?_ rfl _ _⟩
  · rintro b (s | s | s | r) <;> rfl
  · rintro b (s | s | s | r) <;> rfl
  · rintro b (s | s | s | r) <;> rfl

/-! ## What an entry replaces -/

/-- A capability is made from the text under a key of the entry, or is the one that was built when
the entry has no such key. -/
def IsSelected (value? : Option Json) (make : String → α) (built capability : α) : Prop :=
  (∃ text, value? = some (.string text) ∧ capability = make text) ∨
    (value? = none ∧ capability = built)

section

variable {fields : List (String × Json)} {key default setting : String} (make : String → α)

theorem isSelected_of_isGiven (built : α) (h : Settings.IsGiven fields key default setting) :
    IsSelected (Json.lookup key fields) make built
      (if (Json.lookup key fields).isSome then make setting else built) := by
  rcases h with hlookup | ⟨hlookup, -⟩
  · rw [hlookup]
    exact .inl ⟨setting, rfl, rfl⟩
  · rw [hlookup]
    exact .inr ⟨rfl, rfl⟩

/-- What is made from the default stands in for what is made from a setting that is not there. -/
theorem ite_of_isGiven (h : Settings.IsGiven fields key default setting) :
    (if (Json.lookup key fields).isSome then make setting else make default) = make setting := by
  rcases h with hlookup | ⟨hlookup, rfl⟩
  · rw [hlookup]
    rfl
  · rw [hlookup]
    rfl

end

section

variable {p : Plugin σ} {entry : Json}

omit [OnDisk σ]

theorem capabilitiesFor_of_error {cause : DecodeError} (hne : entry ≠ .null)
    (h : Settings.ofEntry entry = .error cause) : p.capabilitiesFor entry = .error cause := by
  rw [capabilitiesFor, h]
  · rfl
  · exact hne

theorem capabilitiesFor_of_ok {settings : Settings} (h : Settings.ofEntry entry = .ok settings) :
    p.capabilitiesFor entry =
      .ok (if (entry.get? Settings.placeholderKey).isSome then
          .placeholder settings.placeholderSource else p.synthesizer,
        if (entry.get? Settings.definitionKey).isSome then .fixed settings.definitionFile
          else p.resolver) := by
  have hne : entry ≠ .null := by
    rintro rfl
    cases h
  rw [capabilitiesFor, h]
  · rfl
  · exact hne

/-- **The two ways in which an entry can turn out.** -/
theorem capabilitiesFor_cases (p : Plugin σ) (entry : Json) :
    (∃ cause, p.capabilitiesFor entry = .error cause ∧ entry ≠ .null ∧
      Settings.ofEntry entry = .error cause) ∨
    ∃ synthesizer resolver, p.capabilitiesFor entry = .ok (synthesizer, resolver) ∧
      (entry = .null ∨ ∃ settings, Settings.ofEntry entry = .ok settings) ∧
      IsSelected (entry.get? Settings.placeholderKey) .placeholder p.synthesizer synthesizer ∧
      IsSelected (entry.get? Settings.definitionKey) .fixed p.resolver resolver := by
  by_cases hnull : entry = .null
  · subst hnull
    exact .inr ⟨_, _, rfl, .inl rfl, .inr ⟨rfl, rfl⟩, .inr ⟨rfl, rfl⟩⟩
  cases h : Settings.ofEntry entry with
  | error cause => exact .inl ⟨cause, capabilitiesFor_of_error hnull h, hnull, rfl⟩
  | ok settings =>
    refine .inr ⟨_, _, capabilitiesFor_of_ok h, .inr ⟨settings, rfl⟩, ?_⟩
    rcases Settings.ofEntry_eq_ok_cases h with ⟨fields, rfl⟩ | ⟨items, rfl⟩
    · obtain ⟨hdefinition, hplaceholder⟩ := Settings.ofEntry_object h
      exact ⟨isSelected_of_isGiven _ _ hplaceholder, isSelected_of_isGiven _ _ hdefinition⟩
    · exact ⟨.inr ⟨rfl, rfl⟩, .inr ⟨rfl, rfl⟩⟩

end

/-! ## Attaching to one project -/

/-- The line that is written when a plugin attaches to a project. -/
def attachingNote (name root : String) : Diagnostic :=
  ⟨.info, "tzen_bridge::plugin", "Attaching to project " ++ name ++ " (root " ++ root ++ ")"⟩

/-- The layer with the given capabilities over a project with the given root. -/
def layered (factory : ServiceFactory σ) (storage : Storage σ) (synthesizer : Synthesizer σ)
    (resolver : DefinitionResolver σ) (project : Project σ) (inner : Host σ) (root : String) :
    Attachment σ :=
  let host := Overlay.host inner storage synthesizer
  ⟨host, Overlay.service (factory host) ⟨root, project.logger⟩ resolver⟩

section

variable {p : Plugin σ} {project : Project σ} {inner : Host σ} {entry : Json} {w : σ}
  {root : String}
  (hroot : Context.rootOf (OnDisk.disk w).workingDirectory project.name = .ok root)

include hroot

theorem run_attach_of_error {cause : DecodeError} (h : p.capabilitiesFor entry = .error cause) :
    (p.attach project inner entry).run w =
      (.error (.config cause), Traced.emit (attachingNote project.name root) w) := by
  rw [attach, Request.run_getDisk_bind, hroot, h]
  exact (run_bind_of_ok _ (Request.run_pure _ _)).trans
    (run_bind_of_ok _ (Request.run_trace _ _ _ _))

theorem run_attach_of_ok {synthesizer : Synthesizer σ} {resolver : DefinitionResolver σ}
    (h : p.capabilitiesFor entry = .ok (synthesizer, resolver)) :
    (p.attach project inner entry).run w =
      (.ok (layered p.factory p.storage synthesizer resolver project inner root),
        Traced.emit (attachingNote project.name root) w) := by
  rw [attach, Request.run_getDisk_bind, hroot, h]
  exact (run_bind_of_ok _ (Request.run_pure _ _)).trans
    (run_bind_of_ok _ (Request.run_trace _ _ _ _))

end

/-! ## Attaching to many projects -/

/-- A project to attach to, with the host that it has and its configuration entry. -/
structure Target (σ : Type) where
  project : Project σ
  inner : Host σ
  entry : Json

/-- What may happen next to a plugin. -/
inductive Event (σ : Type) where
  | attach (t : Target σ)
  /-- The world changes, be it by what was attached before. -/
  | change (f : σ → σ)

/-- The project that is attached to in an event. -/
def Event.target? : Event σ → Option (Target σ)
  | attach t => some t
  | change _ => none

/-- An attempt to attach to a project: in which world, how it turned out, and the world
afterwards. -/
structure Attempt (σ : Type) where
  before : σ
  target : Target σ
  outcome : Except Error (Attachment σ)
  after : σ

/-- Try to attach to a project. -/
def attempt (p : Plugin σ) (t : Target σ) (w : σ) : Attempt σ :=
  let (outcome, w') := (p.attach t.project t.inner t.entry).run w
  ⟨w, t, outcome, w'⟩

/-- The attempts that the events lead to, from the world `w` on. -/
def attempts (p : Plugin σ) : List (Event σ) → σ → List (Attempt σ)
  | [], _ => []
  | .attach t :: events, w => p.attempt t w :: p.attempts events (p.attempt t w).after
  | .change f :: events, w => p.attempts events (f w)

/-- A run has one attempt for each project, in order. -/
theorem map_target_attempts (p : Plugin σ) (events : List (Event σ)) (w : σ) :
    (p.attempts events w).map Attempt.target = events.filterMap Event.target? := by
  induction events generalizing w with
  | nil => rfl
  | cons e events ih =>
    cases e with
    | attach t => exact congrArg (t :: ·) (ih _)
    | change f => exact ih _

/-- An attempt of a run is the one that is made in its world, whatever came before it. -/
theorem eq_attempt_of_mem {p : Plugin σ} {events : List (Event σ)} {w : σ} {a : Attempt σ}
    (h : a ∈ p.attempts events w) : a = p.attempt a.target a.before := by
  induction events generalizing w with
  | nil => cases h
  | cons e events ih =>
    cases e with
    | attach t =>
      obtain rfl | h := List.mem_cons.1 h
      · rfl
      · exact ih h
    | change f => exact ih h

/-- How an attempt turns out for a plugin that was made by the given choices. -/
structure Attempt.IsSettledBy (factory : ServiceFactory σ) (choices : List (Choice σ))
    (a : Attempt σ) : Prop where
  /-- It fails exactly when there is an entry that cannot be read as settings, with the reason. -/
  error_iff : ∀ e, a.outcome = .error e ↔ ∃ cause, e = .config cause ∧ a.target.entry ≠ .null ∧
    Settings.ofEntry a.target.entry = .error cause
  /-- Otherwise the entry has the first word on the synthesizer and on the resolver, and the last
  choice has the second one.  About storage there are only choices. -/
  capabilities : ∀ attachment, a.outcome = .ok attachment → ∃ root synthesizer resolver,
    Context.rootOf (OnDisk.disk a.before).workingDirectory a.target.project.name = .ok root ∧
    attachment = layered factory (lastSet Choice.storage? .onDisk choices) synthesizer resolver
      a.target.project a.target.inner root ∧
    IsSelected (a.target.entry.get? Settings.placeholderKey) .placeholder
      (lastSet Choice.synthesizer? (.placeholder ({} : Settings).placeholderSource) choices)
      synthesizer ∧
    IsSelected (a.target.entry.get? Settings.definitionKey) .fixed
      (lastSet Choice.resolver? (.fixed ({} : Settings).definitionFile) choices) resolver
  /-- In either case nothing but a line about it is left behind. -/
  after_eq : ∃ root,
    Context.rootOf (OnDisk.disk a.before).workingDirectory a.target.project.name = .ok root ∧
    a.after = Traced.emit (attachingNote a.target.project.name root) a.before

theorem attempt_isSettledBy (factory : ServiceFactory σ) (choices : List (Choice σ))
    (t : Target σ) (w : σ) : ((build factory choices).attempt t w).IsSettledBy factory choices := by
  obtain ⟨root, hroot⟩ := Context.exists_rootOf (OnDisk.disk w).workingDirectory t.project.name
  rw [build_eq]
  rcases capabilitiesFor_cases (Plugin.mk factory _ _ _) t.entry with
    ⟨cause, hcause, hne, hentry⟩ | ⟨synthesizer, resolver, hok, hentry, hselected⟩
  · rw [attempt, run_attach_of_error hroot hcause]
    refine ⟨fun e ↦ ⟨?_, ?_⟩, nofun, root, hroot, rfl⟩
    · rintro ⟨⟩
      exact ⟨cause, rfl, hne, hentry⟩
    · rintro ⟨cause', rfl, -, hentry'⟩
      rw [Except.error.inj (hentry.symm.trans hentry')]
  · rw [attempt, run_attach_of_ok hroot hok]
    refine ⟨fun e ↦ iff_of_false nofun ?_, ?_, root, hroot, rfl⟩
    · rintro ⟨cause, -, hne, herror⟩
      rcases hentry with hnull | ⟨settings, hsettings⟩
      · exact hne hnull
      · cases hsettings.symm.trans herror
    · rintro attachment ⟨⟩
      exact ⟨root, synthesizer, resolver, hroot, rfl, hselected⟩

/-- How an attempt turns out depends on what is attached and where, not on the rest of the
world. -/
theorem outcome_attempt_congr (p : Plugin σ) (t : Target σ) {w w' : σ}
    (h : (OnDisk.disk w).workingDirectory = (OnDisk.disk w').workingDirectory) :
    (p.attempt t w).outcome = (p.attempt t w').outcome := by
  obtain ⟨root, hroot⟩ := Context.exists_rootOf (OnDisk.disk w).workingDirectory t.project.name
  have hroot' := h ▸ hroot
  rcases hcapabilities : p.capabilitiesFor t.entry with cause | ⟨synthesizer, resolver⟩
  · rw [attempt, attempt, run_attach_of_error hroot hcapabilities,
      run_attach_of_error hroot' hcapabilities]
  · rw [attempt, attempt, run_attach_of_ok hroot hcapabilities,
      run_attach_of_ok hroot' hcapabilities]

/-- **What a plugin is built from and the entry of a project select its capabilities, along every
run.**  The run that an attempt is part of makes no difference to how it turns out. -/
theorem attempts_isSettledBy (factory : ServiceFactory σ) (choices : List (Choice σ))
    (events : List (Event σ)) (w : σ) :
    let run := (build factory choices).attempts events w
    run.map Attempt.target = events.filterMap Event.target? ∧
    (∀ a ∈ run, a.IsSettledBy factory choices) ∧
    ∀ (events' : List (Event σ)) (w' : σ), ∀ a ∈ run,
      ∀ a' ∈ (build factory choices).attempts events' w', a.target = a'.target →
        (OnDisk.disk a.before).workingDirectory = (OnDisk.disk a'.before).workingDirectory →
          a.outcome = a'.outcome := by
  refine ⟨map_target_attempts _ _ _, fun a ha ↦ ?_, fun events' w' a ha a' ha' htarget hplace ↦ ?_⟩
  · rw [eq_attempt_of_mem ha]
    exact attempt_isSettledBy factory choices _ _
  · rw [eq_attempt_of_mem ha, eq_attempt_of_mem ha', htarget]
    exact outcome_attempt_congr _ _ hplace

/-- The project in a directory that has no files. -/
def bareProject : Project Cli.Console := Workbench.directoryProject "/p" .diagnostics

/-- Its host. -/
def bareHost : Host Cli.Console := Workbench.diskHost "/p" []

/-- Settings that are chosen after a resolver, and an entry that replaces one of them for the first
of two projects. -/
theorem attempts_isSettledBy_of_two :
    let choices : List (Choice Cli.Console) :=
      [.resolver (.fixed "c.tzen"), .settings ⟨"b.tzen", ""⟩]
    let entry := Json.object [("definitionFile", .string "x.tzen")]
    let run := (build Workbench.wordService choices).attempts
      [.attach ⟨bareProject, bareHost, entry⟩, .attach ⟨bareProject, bareHost, .null⟩]
      Overlay.bareConsole
    let attached (file : String) := layered Workbench.wordService .onDisk (.placeholder "")
      (.fixed file) bareProject bareHost "/p"
    run.map Attempt.outcome = [.ok (attached "x.tzen"), .ok (attached "b.tzen")] ∧
      ∀ a ∈ run, a.IsSettledBy Workbench.wordService choices :=
  ⟨rfl, (attempts_isSettledBy _ _ _ _).2.1⟩

/-! ## The same settings in two places -/

/-- Storage that has every file. -/
def fullStorage : Storage σ where
  present _ := pure (.ok true)

section

variable {factory : ServiceFactory σ} {storage : Storage σ} {project : Project σ} {inner : Host σ}
  {root source source' file file' : String}

omit [OnDisk σ]

/-- A layer over full storage shows its placeholder. -/
theorem scriptSnapshot_layered (resolver : DefinitionResolver σ) (w : σ) :
    (((layered factory fullStorage (.placeholder source) resolver project inner
      root).host.scriptSnapshot "a.tzen").run w).1 = .ok (some ⟨source⟩) :=
  congrArg Prod.fst (Overlay.scriptSnapshot_present (by decide) rfl)

/-- A layer leads to its definition file, seen from the root of the project. -/
theorem definition_layered (synthesizer : Synthesizer σ) (w : σ) :
    (((layered factory storage synthesizer (.fixed file) project inner root).service.definition
      "" 0).run w).1 =
        .ok (some ⟨[DefinitionResolver.fixedDefinition (Path.resolve root file)], ⟨0, 0⟩⟩) :=
  rfl

/-- Files that are the same seen from the root of the project are as good as each other. -/
theorem layered_congr (synthesizer : Synthesizer σ)
    (h : Path.resolve root file = Path.resolve root file') :
    layered factory storage synthesizer (.fixed file) project inner root =
      layered factory storage synthesizer (.fixed file') project inner root := by
  simp only [layered, Overlay.service, DefinitionResolver.fixed, DefinitionResolver.pathIn, h]

/-- Over full storage, the settings of a layer can be told from outside. -/
theorem eq_of_layered_eq (w : σ)
    (h : layered factory fullStorage (.placeholder source) (.fixed file) project inner root =
      layered factory fullStorage (.placeholder source') (.fixed file') project inner root) :
    source = source' ∧ Path.resolve root file = Path.resolve root file' := by
  constructor
  · have hshown := congrArg (fun a ↦ ((a.host.scriptSnapshot "a.tzen").run w).1) h
    simpa only [scriptSnapshot_layered, Except.ok.injEq, Option.some.injEq, Snapshot.mk.injEq]
      using hshown
  · have hled := congrArg (fun a ↦ ((a.service.definition "" 0).run w).1) h
    simpa [definition_layered, DefinitionResolver.fixedDefinition] using hled

end

/-- **Settings come to the same in the entry of a project and in the plugin, if the entry is an
object.**  An array is read as settings, but none of them is applied, so that the two differ
whenever the settings differ from the defaults. -/
theorem attach_entry_eq_iff {entry : Json} {settings : Settings}
    (h : Settings.ofEntry entry = .ok settings) (factory : ServiceFactory σ) (project : Project σ)
    (inner : Host σ) (w : σ) :
    (∀ storage, ∃ attachment w',
      ((build factory [.storage storage]).attach project inner entry).run w =
        (.ok attachment, w') ∧
      ((build factory [.settings settings, .storage storage]).attach project inner .null).run w =
        (.ok attachment, w')) ↔
    (∃ fields, entry = .object fields) ∨
      settings.placeholderSource = ({} : Settings).placeholderSource ∧
      ∀ root, Context.rootOf (OnDisk.disk w).workingDirectory project.name = .ok root →
        Path.resolve root settings.definitionFile =
          Path.resolve root ({} : Settings).definitionFile := by
  obtain ⟨root, hroot⟩ := Context.exists_rootOf (OnDisk.disk w).workingDirectory project.name
  have hbuilt (storage : Storage σ) :
      ((build factory [.settings settings, .storage storage]).attach project inner .null).run w =
        (.ok (layered factory storage (.placeholder settings.placeholderSource)
          (.fixed settings.definitionFile) project inner root),
        Traced.emit (attachingNote project.name root) w) :=
    run_attach_of_ok hroot rfl
  rcases Settings.ofEntry_eq_ok_cases h with ⟨fields, rfl⟩ | ⟨items, rfl⟩
  · obtain ⟨hdefinition, hplaceholder⟩ := Settings.ofEntry_object h
    have hcapabilities (storage : Storage σ) :
        (build factory [.storage storage]).capabilitiesFor (.object fields) =
          .ok (.placeholder settings.placeholderSource, .fixed settings.definitionFile) :=
      (capabilitiesFor_of_ok h).trans (congrArg Except.ok
        (Prod.ext (ite_of_isGiven Synthesizer.placeholder hplaceholder)
          (ite_of_isGiven DefinitionResolver.fixed hdefinition)))
    exact iff_of_true
      (fun storage ↦ ⟨_, _, run_attach_of_ok hroot (hcapabilities storage), hbuilt storage⟩)
      (.inl ⟨fields, rfl⟩)
  · -- an array has no keys, so nothing that was built is replaced
    have hstock (storage : Storage σ) :
        ((build factory [.storage storage]).attach project inner (.array items)).run w =
          (.ok (layered factory storage (.placeholder ({} : Settings).placeholderSource)
            (.fixed ({} : Settings).definitionFile) project inner root),
          Traced.emit (attachingNote project.name root) w) :=
      run_attach_of_ok hroot (capabilitiesFor_of_ok h)
    constructor
    · intro hsame
      obtain ⟨attachment, w', hattach, hattach'⟩ := hsame fullStorage
      have heq := (hbuilt fullStorage).symm.trans (hattach'.trans
        (hattach.symm.trans (hstock fullStorage)))
      obtain ⟨hsource, hfile⟩ := eq_of_layered_eq w (Except.ok.inj (Prod.mk.inj heq).1)
      refine .inr ⟨hsource, fun root' hroot' ↦ ?_⟩
      rwa [Except.ok.inj (hroot'.symm.trans hroot)]
    · rintro (⟨fields, ⟨⟩⟩ | ⟨hsource, hfile⟩) storage
      rw [hbuilt, hsource, layered_congr _ (hfile root hroot)]
      exact ⟨_, _, hstock storage, rfl⟩

/-- An entry as it stands in a configuration, with the name of the layer and one of the settings. -/
theorem attach_entry_eq_iff_of_object :
    let entry := Json.object [("definitionFile", .string "x.tzen"), ("name", .string "tzen-bridge")]
    let settings : Settings := { definitionFile := "x.tzen" }
    Settings.ofEntry entry = .ok settings ∧ ∀ storage, ∃ attachment w',
      ((build Workbench.wordService [.storage storage]).attach bareProject bareHost entry).run
        Overlay.bareConsole = (.ok attachment, w') ∧
      ((build Workbench.wordService [.settings settings, .storage storage]).attach bareProject
        bareHost .null).run Overlay.bareConsole = (.ok attachment, w') := by
  intro entry settings
  have hread : Settings.ofEntry entry = .ok settings := rfl
  exact ⟨hread, (attach_entry_eq_iff hread _ _ _ _).2 (.inl ⟨_, rfl⟩)⟩

/-- **Settings in an array are read and then dropped.** -/
theorem attach_array_entry :
    let entry := Json.array [.string "x.tzen"]
    let settings : Settings := { definitionFile := "x.tzen" }
    Settings.ofEntry entry = .ok settings ∧ ∃ a a' w',
      ((build Workbench.wordService []).attach bareProject bareHost entry).run
        Overlay.bareConsole = (.ok a, w') ∧
      ((build Workbench.wordService [.settings settings]).attach bareProject bareHost .null).run
        Overlay.bareConsole = (.ok a', w') ∧
      ((a.service.definition "" 0).run w').1 =
        .ok (some ⟨[DefinitionResolver.fixedDefinition "/p/a.tzen"], ⟨0, 0⟩⟩) ∧
      ((a'.service.definition "" 0).run w').1 =
        .ok (some ⟨[DefinitionResolver.fixedDefinition "/p/x.tzen"], ⟨0, 0⟩⟩) :=
  ⟨rfl, _, _, _, rfl, rfl, rfl, rfl⟩

end Plugin

end HostOverlay
