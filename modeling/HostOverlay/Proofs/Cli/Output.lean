import HostOverlay.Cli.Run
import HostOverlay.Proofs.Script.Wire
import HostOverlay.Proofs.Settings.File
import HostOverlay.Proofs.Workbench.Diagnostics
import Mathlib.Data.List.Forall2

/-!
# What commands print as JSON

A command that succeeds with its output as JSON prints one text, and that text is the answer of the
library: `stdout_of_json` says for the three commands with such an output that the text is read and
decoded as exactly the value that the library gives in any world with the same disk.

Up to the point where it prints, a command only writes diagnostics (`SameOutput`), so its questions
are answered as those of any other program are.  What it then prints is taken back because the
written form of each type is faithful to it (`RoundTrips`).
-/

set_option autoImplicit false

namespace HostOverlay.Cli

variable {α β : Type}

/-! ## The statement -/

/-- The output stream: the printed lines, with a line break behind each. -/
def Console.stdout (c : Console) : String := String.join (c.out.map (· ++ "\n"))

/-- The settings that a command works with, when it is given the path of a settings file or none. -/
def settingsOn (d : Disk) (path : Option String) : Except Settings.FileError Settings :=
  ((Settings.load (path.getD Settings.defaultPath)).run d).1.map fun found ↦ found.getD {}

/-- The library's answer to a question about the project at `path` is `a`: in every world with the
disk `d` the project opens, and the workbench that it opens as answers `a`. -/
def LibraryAnswers (d : Disk) (path : String) (settings : Settings)
    (question : {σ : Type} → Workbench σ → Request σ α) (a : α) : Prop :=
  ∀ (σ : Type) [Traced σ] [OnDisk σ] [LawfulWorld σ] (w : σ), OnDisk.disk w = d →
    ((Workbench.openAt path settings >>= fun bench ↦ question bench).run w).1 = .ok a

/-- Between the two consoles one text was printed, and `decode` takes it as `a`. -/
def PrintedJson (decode : Decoder α) (before after : Console) (a : α) : Prop :=
  ∃ text, after.stdout = before.stdout ++ text ∧ decode.ofText text = some (.ok a)

/-- The question for the files that a host has to track. -/
def askFiles {σ : Type} (bench : Workbench σ) : Request σ (List String) :=
  ExceptT.lift bench.externalFiles

/-- The question for the resolutions of specifiers in a file. -/
def askResolutions (specifiers : List String) (containing : String) {σ : Type}
    (bench : Workbench σ) : Request σ (List Resolution) :=
  bench.host.resolveModuleNames (specifiers.map Specifier.mk) containing {}

/-- The question for the definitions of a symbol. -/
def askDefinition (file : String) (position : Nat) {σ : Type} (bench : Workbench σ) :
    Request σ (Option DefinitionAnswer) :=
  bench.service.definition file position

/-! ## Running a program -/

namespace Program

theorem of_ask_eq_ok {request : Request Console α} {c c' : Console} {a : α}
    (h : (ask request).run c = (.ok a, c')) : request.run c = (.ok a, c') := by
  have hask : (ask request).run c =
      ((request.run c).1.mapError Failure.request, (request.run c).2) := rfl
  rcases hrequest : request.run c with ⟨r, c₁⟩
  rw [hask, hrequest] at h
  cases r with
  | error e => cases congrArg Prod.fst h
  | ok b =>
    obtain ⟨hb, rfl⟩ := Prod.mk.inj h
    rw [Except.ok.inj hb]

end Program

/-- The second console differs from the first in nothing that commands print or read. -/
structure SameOutput (c c' : Console) : Prop where
  out : c'.out = c.out
  disk : c'.disk = c.disk

namespace SameOutput

theorem trans {c c' c'' : Console} (h : SameOutput c c') (h' : SameOutput c' c'') :
    SameOutput c c'' :=
  ⟨h'.out.trans h.out, h'.disk.trans h.disk⟩

/-- Diagnostics go to the error stream. -/
theorem of_onlyTraces {x : StateM Console α} (h : OnlyTraces x) {c c' : Console} {a : α}
    (hx : x c = (a, c')) : SameOutput c c' := by
  have hout : ∀ d (c : Console), (Traced.emit d c).out = c.out := by
    intro d c
    simp only [Traced.emit]
    split
    · rfl
    · rfl
  have hdisk : ∀ d (c : Console), (Traced.emit d c).disk = c.disk := LawfulWorld.disk_emit
  have hc := h.map_eq hout c
  have hc' := h.map_eq hdisk c
  rw [hx] at hc hc'
  exact ⟨hc, hc'⟩

end SameOutput

/-! ## Opening the project -/

theorem run_edit (change : Disk.Edit Settings.FileError α) (c : Console) :
    (edit change).run c = ((change.run c.disk).1.mapError Failure.settings,
      { c with disk := (change.run c.disk).2 }) := by
  rw [edit, run_get_bind]
  rcases change.run c.disk with ⟨answer, disk⟩
  cases answer with
  | error cause => rfl
  | ok a => rfl

theorem readSettings_eq_ok {path : Option String} {c c' : Console} {settings : Settings}
    (h : (readSettings path).run c = (.ok settings, c')) :
    settingsOn c.disk path = .ok settings ∧ SameOutput c c' := by
  obtain ⟨found, c₁, hfound, htrace⟩ := of_run_bind_eq_ok h
  rw [run_edit, Settings.run_load] at hfound
  obtain ⟨hload, rfl⟩ := Prod.mk.inj hfound
  have hsettings : found.getD {} = settings := Except.ok.inj (Prod.mk.inj htrace).1
  have htrace : trace .debug "tzen_bridge" ("Using config " ++ shownSettings (found.getD {})) c =
      ((), c') := congrArg (Prod.mk ()) (Prod.mk.inj htrace).2
  refine ⟨?_, .of_onlyTraces (OnlyTraces.trace _ _ _) htrace⟩
  rw [settingsOn, ← hsettings]
  cases hanswer : ((Settings.load (path.getD Settings.defaultPath)).run c.disk).1 with
  | error cause =>
    rw [hanswer] at hload
    cases hload
  | ok loaded =>
    rw [hanswer] at hload
    rw [Except.ok.inj hload]
    rfl

/-- **A command works on the workbench that the library opens.** -/
theorem openProject_eq_ok {project : String} {path : Option String} {c c' : Console}
    {bench : Workbench Console} (h : (openProject project path).run c = (.ok bench, c')) :
    ∃ settings root home, settingsOn c.disk path = .ok settings ∧
      Path.absolute? c.disk.workingDirectory project = some root ∧
      Context.rootOf c.disk.workingDirectory (Path.join root "tsconfig.json") = .ok home ∧
      bench = Workbench.opened settings root (Workbench.filesOn root c.disk) home ∧
      SameOutput c c' := by
  obtain ⟨settings, c₁, hsettings, hopen⟩ := of_run_bind_eq_ok h
  obtain ⟨hload, hsame⟩ := readSettings_eq_ok hsettings
  have hopen := Program.of_ask_eq_ok hopen
  have hopened := (Workbench.reads_openAt project settings c₁).1
  rw [hopen] at hopened
  have hdisk : OnDisk.disk c₁ = c.disk := hsame.disk
  rw [hdisk] at hopened
  obtain ⟨root, home, hroot, hhome, hbench⟩ := Workbench.openedOn_eq_ok hopened.symm
  exact ⟨settings, root, home, hload, hroot, hhome, hbench,
    hsame.trans (.of_onlyTraces (Workbench.onlyTraces_openAt project settings) hopen)⟩

section

variable {d : Disk} {path root home : String} {settings : Settings}

/-- The library's answer is that of the workbench the project opens as. -/
theorem libraryAnswers_of_opened (hroot : Path.absolute? d.workingDirectory path = some root)
    (hhome : Context.rootOf d.workingDirectory (Path.join root "tsconfig.json") = .ok home)
    {question : {σ : Type} → Workbench σ → Request σ α} {f : Disk → Except Error α} {a : α}
    (ha : f d = .ok a)
    (hquestion : ∀ (σ : Type) [Traced σ] [OnDisk σ] [LawfulWorld σ],
      Reads (question (Workbench.opened settings root (Workbench.filesOn root d) home :
        Workbench σ)).run f) : LibraryAnswers d path settings question a := by
  rintro σ _ _ _ w rfl
  -- the world after opening has the same disk, so the question is about the workbench as it opened
  obtain ⟨hopened, hdisk⟩ := Workbench.reads_openAt path settings w
  have hopenedOn : Workbench.openedOn path settings (OnDisk.disk w) =
      .ok (Workbench.opened settings root (Workbench.filesOn root (OnDisk.disk w)) home :
        Workbench σ) := by
    rw [Workbench.openedOn, hroot]
    simp only [hhome]
    rfl
  rw [hopenedOn] at hopened
  rcases hrun : (Workbench.openAt path settings).run w with ⟨r, w'⟩
  rw [hrun] at hopened hdisk
  obtain rfl : r = _ := hopened
  rw [run_bind_of_ok _ hrun, (hquestion σ w').1, hdisk, ha]

end

/-! ## Printing -/

theorem stdout_print (c : Console) (line : String) :
    (print line c).2.stdout = c.stdout ++ (line ++ "\n") := by
  have hout : (print line c).2.out = c.out ++ [line] := rfl
  simp [Console.stdout, hout]

/-- **The answer to a question is printed so that it is taken back.** -/
theorem printedJson_of_ask {encode : α → Json} {decode : Decoder α} {InRange : α → Prop}
    (h : RoundTrips encode decode InRange) {question : Request Console α}
    (hquestion : OnlyTraces question.run) {f : Disk → Except Error α}
    (hreads : Reads question.run f) {before c after : Console} (hsame : SameOutput before c)
    (hrun : (ask question >>= fun a ↦ ExceptT.lift (print (encode a).pretty)).run c =
      (.ok (), after)) (hrange : ∀ a, f before.disk = .ok a → InRange a) :
    ∃ a, f before.disk = .ok a ∧ PrintedJson decode before after a := by
  obtain ⟨a, c', hask, hprint⟩ := of_run_bind_eq_ok hrun
  have hask := Program.of_ask_eq_ok hask
  -- the question is put on the disk as it was before, since nothing so far has changed it
  have ha := (hreads c).1
  have hdisk : OnDisk.disk c = before.disk := hsame.disk
  rw [hask, hdisk] at ha
  have hsame' : SameOutput before c' := hsame.trans (.of_onlyTraces hquestion hask)
  obtain rfl : (print (encode a).pretty c').2 = after := (Prod.mk.inj hprint).2
  refine ⟨a, ha.symm, (encode a).pretty ++ "\n", ?_, ?_⟩
  · rw [stdout_print, Console.stdout, hsame'.out, Console.stdout]
  · exact h.ofText_pretty (hrange a ha.symm) (Json.isBlanks_singleton rfl)

/-! ## The commands -/

section

variable {settingsPath : Option String} {project : String} {c after : Console}

theorem runFiles_json (h : (runFiles settingsPath project .json).run c = (.ok (), after)) :
    ∃ settings files, settingsOn c.disk settingsPath = .ok settings ∧
      LibraryAnswers c.disk project settings askFiles files ∧
      PrintedJson (.list .text) c after files := by
  obtain ⟨bench, c', hopen, hrun⟩ := of_run_bind_eq_ok h
  obtain ⟨settings, root, home, hload, hroot, hhome, rfl, hsame⟩ := openProject_eq_ok hopen
  have hreads : ∀ (σ : Type) [Traced σ] [OnDisk σ] [LawfulWorld σ],
      Reads (askFiles (Workbench.opened settings root (Workbench.filesOn root c.disk) home :
        Workbench σ)).run fun d ↦ .ok ((Workbench.filesOn root d).filter isForeign) :=
    fun σ ↦ (Workbench.reads_externalFiles settings root _ home).lift
  obtain ⟨files, hfiles, hprinted⟩ := printedJson_of_ask RoundTrips.text.list
    (Workbench.onlyTraces_externalFiles settings root _ home).lift (hreads Console) hsame hrun
    fun _ _ _ _ ↦ trivial
  exact ⟨settings, files, hload, libraryAnswers_of_opened hroot hhome hfiles hreads, hprinted⟩

theorem absolutePath_eq_ok {path absolute : String} {c c' : Console}
    (h : (absolutePath path).run c = (.ok absolute, c')) :
    Path.absolute? c.disk.workingDirectory path = some absolute ∧ c' = c := by
  rw [absolutePath, run_get_bind] at h
  split at h
  · rename_i p hp
    obtain ⟨habsolute, rfl⟩ := Prod.mk.inj h
    obtain rfl := Except.ok.inj habsolute
    exact ⟨hp, rfl⟩
  · cases h

theorem runResolve_json {fromFile : String} {specifiers : List String}
    (h : (runResolve settingsPath fromFile project specifiers .json).run c = (.ok (), after)) :
    ∃ settings containing found, settingsOn c.disk settingsPath = .ok settings ∧
      Path.absolute? c.disk.workingDirectory fromFile = some containing ∧
      LibraryAnswers c.disk project settings (askResolutions specifiers containing) found ∧
      List.Forall₂ (fun s r ↦
        LibraryAnswers c.disk project settings (askResolutions [s] containing) [r])
        specifiers found ∧
      PrintedJson (.list Resolution.decoder) c after found := by
  obtain ⟨bench, c', hopen, hrun⟩ := of_run_bind_eq_ok h
  obtain ⟨settings, root, home, hload, hroot, hhome, rfl, hsame⟩ := openProject_eq_ok hopen
  obtain ⟨containing, c'', hpath, hresolve⟩ := of_run_bind_eq_ok hrun
  obtain ⟨hcontaining, rfl⟩ := absolutePath_eq_ok hpath
  rw [hsame.disk] at hcontaining
  have hreads : ∀ (ss : List String) (σ : Type) [Traced σ] [OnDisk σ] [LawfulWorld σ],
      Reads (askResolutions ss containing (Workbench.opened settings root
        (Workbench.filesOn root c.disk) home : Workbench σ)).run fun d ↦
          .ok ((ss.map Specifier.mk).map (Workbench.slot d.isFile {} containing)) :=
    fun ss σ ↦ Workbench.reads_resolveModuleNames root _ settings.placeholderSource _ containing {}
  obtain ⟨found, hfound, hprinted⟩ := printedJson_of_ask Resolution.roundTrips.list
    (Workbench.onlyTraces_resolveModuleNames settings root _ home _ containing {})
    (hreads specifiers Console) hsame hresolve fun _ _ _ _ ↦ trivial
  refine ⟨settings, containing, found, hload, hcontaining,
    libraryAnswers_of_opened hroot hhome hfound (hreads specifiers), ?_, hprinted⟩
  -- a batch is answered slot by slot
  obtain rfl := Except.ok.inj hfound
  rw [List.map_map, List.forall₂_map_right_iff, List.forall₂_same]
  exact fun s _ ↦ libraryAnswers_of_opened hroot hhome rfl (hreads [s])

theorem inRange_fixed (path : String) :
    DefinitionAnswer.InRange ⟨[DefinitionResolver.fixedDefinition path], ⟨0, 0⟩⟩ := by
  have hdefinition : DefinitionResolver.fixedSpan.InRange := ⟨by decide, by decide⟩
  have hbound : TextSpan.InRange ⟨0, 0⟩ := ⟨by decide, by decide⟩
  exact ⟨List.forall_mem_singleton.2 hdefinition, hbound⟩

theorem runDefinition_json {file : String} {position : Nat}
    (h : (runDefinition settingsPath project file position .json).run c = (.ok (), after)) :
    ∃ settings answer, settingsOn c.disk settingsPath = .ok settings ∧
      LibraryAnswers c.disk project settings (askDefinition file position) answer ∧
      PrintedJson (.optional DefinitionAnswer.decoder) c after answer := by
  obtain ⟨bench, c', hopen, hrun⟩ := of_run_bind_eq_ok h
  obtain ⟨settings, root, home, hload, hroot, hhome, rfl, hsame⟩ := openProject_eq_ok hopen
  have hreads : ∀ (σ : Type) [Traced σ] [OnDisk σ] [LawfulWorld σ],
      Reads (askDefinition file position (Workbench.opened settings root
        (Workbench.filesOn root c.disk) home : Workbench σ)).run _ :=
    fun σ ↦ Workbench.reads_definition settings root _ home file position
  obtain ⟨answer, hanswer, hprinted⟩ := printedJson_of_ask
    (DefinitionAnswer.roundTrips.optional fun _ h ↦ nomatch h)
    (Workbench.onlyTraces_definition settings root _ home file position) (hreads Console) hsame hrun
    fun _ h a ha ↦ by
      obtain rfl := Except.ok.inj h
      obtain rfl := Option.some.inj ha
      exact inRange_fixed _
  exact ⟨settings, answer, hload, libraryAnswers_of_opened hroot hhome hanswer hreads, hprinted⟩

end

/-- A command line that makes a command runs it. -/
theorem runCommand_of_run {arguments : List String} {invocation : Invocation}
    (hread : Invocation.read arguments = .ok invocation) {console after : Console}
    (hrun : run arguments console = (0, after)) :
    (runCommand invocation.settingsPath invocation.command).run
      { console with verbose := invocation.verbose } = (.ok (), after) := by
  rw [run, hread] at hrun
  simp only at hrun
  split at hrun
  · rename_i hcommand
    rw [hcommand, (Prod.mk.inj hrun).2]
  · cases hrun

/-- **What a command prints as JSON is what the library answers.**  The text that a successful run
adds to the output stream is read and decoded as that very answer; a batch of resolutions has one
for each specifier, in their order. -/
theorem stdout_of_json {arguments : List String} {invocation : Invocation}
    (hread : Invocation.read arguments = .ok invocation) {console after : Console}
    (hrun : run arguments console = (0, after)) :
    (∀ project, invocation.command = .files project .json →
      ∃ settings files, settingsOn console.disk invocation.settingsPath = .ok settings ∧
        LibraryAnswers console.disk project settings askFiles files ∧
        PrintedJson (.list .text) console after files) ∧
    (∀ fromFile project specifiers,
      invocation.command = .resolve fromFile project specifiers .json →
      ∃ settings containing found,
        settingsOn console.disk invocation.settingsPath = .ok settings ∧
        Path.absolute? console.disk.workingDirectory fromFile = some containing ∧
        LibraryAnswers console.disk project settings (askResolutions specifiers containing) found ∧
        List.Forall₂ (fun s r ↦
          LibraryAnswers console.disk project settings (askResolutions [s] containing) [r])
          specifiers found ∧
        PrintedJson (.list Resolution.decoder) console after found) ∧
    ∀ project file position, invocation.command = .definition project file position .json →
      ∃ settings answer, settingsOn console.disk invocation.settingsPath = .ok settings ∧
        LibraryAnswers console.disk project settings (askDefinition file position) answer ∧
        PrintedJson (.optional DefinitionAnswer.decoder) console after answer := by
  have hcommand := runCommand_of_run hread hrun
  refine ⟨?_, ?_, ?_⟩
  · intro project h
    rw [h] at hcommand
    have hprinted := runFiles_json hcommand
    exact hprinted
  · intro fromFile project specifiers h
    rw [h] at hcommand
    have hprinted := runResolve_json hcommand
    exact hprinted
  · intro project file position h
    rw [h] at hcommand
    have hprinted := runDefinition_json hcommand
    exact hprinted

theorem run_of_code {arguments : List String} {console : Console} {code : Nat}
    (h : (run arguments console).1 = code) :
    run arguments console = (code, (run arguments console).2) := by
  rw [← h]

/-- A project with one foreign file, whose name has a quote, a backslash, a line break, another
control character and a letter that is not ASCII. -/
def oddConsole : Console where
  disk := ⟨.dir [("p", .dir [("a\"\\\n\x01é.tzen", .file .empty 0)])], "/", none⟩

/-- The path of that file. -/
def oddPath : String := "/p/a\"\\\n\x01é.tzen"

/-- The specifier of that file next to it. -/
def oddSpecifier : String := "./a\"\\\n\x01é.tzen"

/-- A command line that lists the files of the project. -/
def filesCommand : List String := ["files", "--format", "json", "--project", "p"]

/-- One that resolves a foreign specifier and a package. -/
def resolveCommand : List String :=
  ["resolve", "--format=json", "--project=p", "--from=p/b.ts", oddSpecifier, "fs"]

/-- One that asks for definitions. -/
def definitionCommand : List String := ["definition", "-fjson", "-pp", "--position", "7"]

/-- Such a name is printed and taken back, and so are specifiers like it. -/
theorem stdout_of_json_of_odd_names :
    (LibraryAnswers oddConsole.disk "p" {} askFiles [oddPath] ∧
      PrintedJson (.list .text) oddConsole (run filesCommand oddConsole).2 [oddPath]) ∧
    (∃ found,
      LibraryAnswers oddConsole.disk "p" {} (askResolutions [oddSpecifier, "fs"] "/p/b.ts")
        found ∧
      PrintedJson (.list Resolution.decoder) oddConsole (run resolveCommand oddConsole).2 found) ∧
    ∃ answer, LibraryAnswers oddConsole.disk "p" {} (askDefinition "" 7) answer ∧
      PrintedJson (.optional DefinitionAnswer.decoder) oddConsole
        (run definitionCommand oddConsole).2 answer := by
  have hsettings : settingsOn oddConsole.disk none = .ok {} := rfl
  have hfiles := run_of_code (show (run filesCommand oddConsole).1 = 0 by decide +kernel)
  have hresolve := run_of_code (show (run resolveCommand oddConsole).1 = 0 by decide +kernel)
  have hdefinition := run_of_code (show (run definitionCommand oddConsole).1 = 0 by decide +kernel)
  refine ⟨?_, ?_, ?_⟩
  · have hread : Invocation.read filesCommand = .ok ⟨false, none, .files "p" .json⟩ := rfl
    obtain ⟨settings, names, hload, hlibrary, hprinted⟩ := (stdout_of_json hread hfiles).1 _ rfl
    obtain rfl := Except.ok.inj (hsettings.symm.trans hload)
    have hnames : names = [oddPath] := by
      obtain ⟨text, hstdout, htext⟩ := hprinted
      have hempty : oddConsole.stdout = "" := rfl
      rw [hempty, String.empty_append] at hstdout
      rw [← hstdout] at htext
      have hdecoded : (Decoder.list Decoder.text).ofText (run filesCommand oddConsole).2.stdout =
          some (.ok [oddPath]) := by decide +kernel
      exact Except.ok.inj (Option.some.inj (htext.symm.trans hdecoded))
    subst hnames
    exact ⟨hlibrary, hprinted⟩
  · have hread : Invocation.read resolveCommand = .ok ⟨false, none,
        .resolve "p/b.ts" "p" [oddSpecifier, "fs"] .json⟩ := rfl
    obtain ⟨settings, containing, found, hload, hpath, hlibrary, -, hprinted⟩ :=
      (stdout_of_json hread hresolve).2.1 _ _ _ rfl
    obtain rfl := Except.ok.inj (hsettings.symm.trans hload)
    obtain rfl : "/p/b.ts" = containing := Option.some.inj hpath
    exact ⟨found, hlibrary, hprinted⟩
  · have hread : Invocation.read definitionCommand =
        .ok ⟨false, none, .definition "p" "" 7 .json⟩ := rfl
    obtain ⟨settings, answer, hload, hlibrary, hprinted⟩ :=
      (stdout_of_json hread hdefinition).2.2 _ _ _ rfl
    obtain rfl := Except.ok.inj (hsettings.symm.trans hload)
    exact ⟨answer, hlibrary, hprinted⟩

end HostOverlay.Cli
