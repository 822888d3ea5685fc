import HostOverlay.Proofs.Cli.Output

/-!
# What commands do to the disk

Every command but `init` only reads the disk and prints, and `init` changes it in one way only: by
saving settings.  `KeepsDisk` says that a computation on a console leaves the disk as it is; it has
one lemma for each way in which commands are put together.

* `keepsDisk_runCommand`: the commands that only read.
* `disk_run`: what became of the disk after a whole run.
-/

set_option autoImplicit false

namespace HostOverlay.Cli

variable {α β : Type}

/-- The computation leaves the disk of the console as it is. -/
def KeepsDisk (x : StateM Console α) : Prop := ∀ c, (x c).2.disk = c.disk

theorem keepsDisk_of_reads {x : StateM Console α} {f : Disk → α} (h : Reads x f) : KeepsDisk x :=
  fun c ↦ (h c).2

/-! ## Putting computations together -/

namespace KeepsDisk

protected theorem pure (a : α) : KeepsDisk (pure a) := fun _ ↦ rfl

protected theorem get : KeepsDisk get := fun _ ↦ rfl

protected theorem bind {x : StateM Console α} (hx : KeepsDisk x) {k : α → StateM Console β}
    (hk : ∀ a, KeepsDisk (k a)) : KeepsDisk (x >>= k) :=
  fun c ↦ (hk (x c).1 (x c).2).trans (hx c)

protected theorem forM {f : β → StateM Console Unit} (h : ∀ b, KeepsDisk (f b)) (bs : List β) :
    KeepsDisk (bs.forM f) := by
  induction bs with
  | nil => exact .pure ()
  | cons b bs ih => exact (h b).bind fun _ ↦ ih

protected theorem lift {x : StateM Console α} (h : KeepsDisk x) :
    KeepsDisk (ExceptT.lift x : Program α).run := h

protected theorem throw (e : Failure) : KeepsDisk (throw e : Program α).run := fun _ ↦ rfl

protected theorem ask {request : Request Console α} (h : KeepsDisk request.run) :
    KeepsDisk (Cli.ask request).run := h

/-- Only what the first part can succeed with has to be looked at behind it. -/
protected theorem program_bind {x : Program α} (hx : KeepsDisk x.run) {k : α → Program β}
    (hk : ∀ c a c', x.run c = (.ok a, c') → KeepsDisk (k a).run) : KeepsDisk (x >>= k).run := by
  intro c
  have hfirst := hx c
  rcases hrun : x.run c with ⟨a, c'⟩
  rw [run_bind, hrun]
  rw [hrun] at hfirst
  cases a with
  | error e => exact hfirst
  | ok a => exact (hk c a c' hrun c').trans hfirst

end KeepsDisk

/-! ## Printing -/

theorem keepsDisk_print (line : String) : KeepsDisk (print line) := fun _ ↦ rfl

theorem keepsDisk_printError (line : String) : KeepsDisk (printError line) := fun _ ↦ rfl

theorem keepsDisk_styled (part : Text.Theme → Text.Style) (text : String) :
    KeepsDisk (styled part text) := fun _ ↦ rfl

theorem keepsDisk_unlessQuiet {action : StateM Console Unit} (h : KeepsDisk action) :
    KeepsDisk (unlessQuiet action) := by
  refine KeepsDisk.get.bind fun c ↦ ?_
  cases c.quiet with
  | true => exact .pure ()
  | false => exact h

theorem keepsDisk_printHeader (text : String) : KeepsDisk (printHeader text) :=
  keepsDisk_unlessQuiet <| (keepsDisk_styled _ _).bind fun _ ↦ keepsDisk_print _

theorem keepsDisk_printSection (title : String) : KeepsDisk (printSection title) :=
  keepsDisk_unlessQuiet <| (keepsDisk_print _).bind fun _ ↦
    (keepsDisk_styled _ _).bind fun _ ↦ keepsDisk_print _

theorem keepsDisk_printWarning (text : String) : KeepsDisk (printWarning text) :=
  (keepsDisk_styled _ _).bind fun _ ↦ keepsDisk_printError _

theorem keepsDisk_printInfo (label value : String) : KeepsDisk (printInfo label value) :=
  (keepsDisk_styled _ _).bind fun _ ↦ keepsDisk_print _

theorem keepsDisk_printSummary (label value : String) : KeepsDisk (printSummary label value) :=
  keepsDisk_unlessQuiet <| (keepsDisk_styled _ _).bind fun _ ↦ keepsDisk_print _

theorem keepsDisk_printFiles (root : String) (files : List String) :
    KeepsDisk (printFiles root files) := by
  have hfile : ∀ path, KeepsDisk (printFile path) := fun _ ↦
    (keepsDisk_styled _ _).bind fun _ ↦ keepsDisk_print _
  have hbody : KeepsDisk (files.forM printFile >>= fun _ ↦
      printSummary "Total:" (toString files.length)) :=
    (KeepsDisk.forM hfile files).bind fun _ ↦ keepsDisk_printSummary _ _
  refine (keepsDisk_printHeader _).bind fun _ ↦ ?_
  cases files.isEmpty with
  | true => exact (keepsDisk_printWarning _).bind fun _ ↦ hbody
  | false => exact hbody

theorem keepsDisk_printResolutions (containing : String) (specifiers : List String)
    (found : List Resolution) : KeepsDisk (printResolutions containing specifiers found) :=
  (keepsDisk_printHeader _).bind fun _ ↦ keepsDisk_print _

theorem keepsDisk_printDefinitions (definitions : List Definition) :
    KeepsDisk (printDefinitions definitions) := by
  rw [printDefinitions]
  split
  · exact keepsDisk_printWarning _
  · exact .forM (fun _ ↦ keepsDisk_printInfo _ _) _

/-! ## The commands -/

theorem keepsDisk_readSettings (path : Option String) : KeepsDisk (readSettings path).run := by
  have hload : KeepsDisk (edit (Settings.load (path.getD Settings.defaultPath))).run := by
    intro c
    rw [run_edit, Settings.run_load]
  exact hload.program_bind fun _ _ _ _ ↦
    (keepsDisk_of_reads (Reads.trace _ _ _)).lift.program_bind fun _ _ _ _ ↦ .pure _

theorem keepsDisk_absolutePath (path : String) : KeepsDisk (absolutePath path).run := by
  refine KeepsDisk.program_bind (x := (get : Program Console)) KeepsDisk.get fun _ c _ _ ↦ ?_
  cases Path.absolute? c.disk.workingDirectory path with
  | none => exact .throw _
  | some absolute => exact .pure _

theorem keepsDisk_openProject (project : String) (path : Option String) :
    KeepsDisk (openProject project path).run :=
  (keepsDisk_readSettings path).program_bind fun _ settings _ _ ↦
    (keepsDisk_of_reads (Workbench.reads_openAt project settings)).ask

section

variable (settingsPath : Option String)

theorem keepsDisk_runFiles (project : String) (format : Format) :
    KeepsDisk (runFiles settingsPath project format).run := by
  refine (keepsDisk_openProject _ _).program_bind fun c bench c' hopen ↦ ?_
  obtain ⟨settings, root, home, -, -, -, rfl, -⟩ := openProject_eq_ok hopen
  refine (keepsDisk_of_reads (Workbench.reads_externalFiles settings root _ home)).lift.program_bind
    fun _ files _ _ ↦ ?_
  cases format with
  | json => exact (keepsDisk_print _).lift
  | text => exact (keepsDisk_printFiles _ _).lift

theorem keepsDisk_runResolve (fromFile project : String) (specifiers : List String)
    (format : Format) :
    KeepsDisk (runResolve settingsPath fromFile project specifiers format).run := by
  refine (keepsDisk_openProject _ _).program_bind fun c bench c' hopen ↦ ?_
  obtain ⟨settings, root, home, -, -, -, rfl, -⟩ := openProject_eq_ok hopen
  refine (keepsDisk_absolutePath _).program_bind fun _ containing _ _ ↦ ?_
  refine (keepsDisk_of_reads (Workbench.reads_resolveModuleNames root _ settings.placeholderSource
    _ containing {})).ask.program_bind fun _ found _ _ ↦ ?_
  cases format with
  | json => exact (keepsDisk_print _).lift
  | text => exact (keepsDisk_printResolutions _ _ _).lift

theorem keepsDisk_runSnapshot (path project : String) :
    KeepsDisk (runSnapshot settingsPath path project).run := by
  refine (keepsDisk_openProject _ _).program_bind fun c bench c' hopen ↦ ?_
  obtain ⟨settings, root, home, -, -, -, rfl, -⟩ := openProject_eq_ok hopen
  refine (keepsDisk_absolutePath _).program_bind fun _ file _ _ ↦ ?_
  refine (keepsDisk_printInfo _ _).lift.program_bind fun _ _ _ _ ↦ ?_
  refine (keepsDisk_of_reads (Workbench.reads_scriptKind root _ settings.placeholderSource
    file)).lift.program_bind fun _ kind _ _ ↦ ?_
  refine (keepsDisk_printInfo _ _).lift.program_bind fun _ _ _ _ ↦ ?_
  refine (keepsDisk_of_reads (Workbench.reads_scriptSnapshot root _ settings.placeholderSource
    file)).ask.program_bind fun _ found _ _ ↦ ?_
  cases found with
  | none => exact (keepsDisk_printWarning _).lift
  | some snapshot =>
    exact ((keepsDisk_printInfo _ _).bind fun _ ↦ (keepsDisk_printSection _).bind fun _ ↦
      keepsDisk_print _).lift

theorem keepsDisk_runDefinition (project file : String) (position : Nat) (format : Format) :
    KeepsDisk (runDefinition settingsPath project file position format).run := by
  refine (keepsDisk_openProject _ _).program_bind fun c bench c' hopen ↦ ?_
  obtain ⟨settings, root, home, -, -, -, rfl, -⟩ := openProject_eq_ok hopen
  refine (keepsDisk_of_reads (Workbench.reads_definition settings root _ home file
    position)).ask.program_bind fun _ answer _ _ ↦ ?_
  cases format with
  | json => exact (keepsDisk_print _).lift
  | text => exact (keepsDisk_printDefinitions _).lift

/-- **A command that does not write settings leaves the disk as it is.** -/
theorem keepsDisk_runCommand {command : Command} (h : ∀ force, command ≠ .init force) :
    KeepsDisk (runCommand settingsPath command).run := by
  cases command with
  | files project format => exact keepsDisk_runFiles _ _ _
  | resolve fromFile project specifiers format => exact keepsDisk_runResolve _ _ _ _ _
  | snapshot path project => exact keepsDisk_runSnapshot _ _ _
  | definition project file position format => exact keepsDisk_runDefinition _ _ _ _ _
  | init force => exact absurd rfl (h force)

/-- Writing settings leaves the disk as it is where saving them fails, and succeeds with the disk
that they were saved on. -/
theorem runInit_cases (force : Bool) (c : Console) :
    (∃ cause after, (runInit settingsPath force).run c = (.error (.settings cause), after) ∧
        after.disk = c.disk) ∨
      ∃ after, (runInit settingsPath force).run c = (.ok (), after) ∧
        (Settings.save (settingsPath.getD Settings.defaultPath) {} force).run c.disk =
          (.ok (), after.disk) := by
  rcases hsave : (Settings.save (settingsPath.getD Settings.defaultPath) {} force).run c.disk with
    ⟨cause | ⟨⟩, d'⟩
  · refine .inl ⟨cause, { c with disk := d' }, ?_, Settings.eq_of_save_eq_error hsave⟩
    rw [runInit, run_bind, run_edit, hsave]
    rfl
  · refine .inr ⟨(printSuccess ("Wrote " ++ settingsPath.getD Settings.defaultPath)
      { c with disk := d' }).2, ?_, rfl⟩
    rw [runInit, run_bind, run_edit, hsave]
    rfl

end

/-! ## Whole runs -/

/-- **What became of the disk after a run**: it is as it was, or the run has succeeded, its command
was the one that writes settings, and they were saved on it. -/
theorem disk_run (arguments : List String) (console : Console) :
    (run arguments console).2.disk = console.disk ∨
      (run arguments console).1 = 0 ∧ ∃ invocation force,
        Invocation.read arguments = .ok invocation ∧ invocation.command = .init force ∧
        (Settings.save (invocation.settingsPath.getD Settings.defaultPath) {} force).run
          console.disk = (.ok (), (run arguments console).2.disk) := by
  cases hread : Invocation.read arguments with
  | error reason => cases reason <;> simp only [run, hread] <;> exact .inl rfl
  | ok invocation =>
    -- the end of a run only prints
    have herrors : ∀ lines : List String, KeepsDisk (lines.forM printError) :=
      KeepsDisk.forM keepsDisk_printError
    by_cases hinit : ∃ force, invocation.command = .init force
    · obtain ⟨force, hforce⟩ := hinit
      simp only [run, hread, hforce, runCommand]
      rcases runInit_cases invocation.settingsPath force
        { console with verbose := invocation.verbose } with
        ⟨cause, after, hrun, hdisk⟩ | ⟨after, hrun, hsave⟩
      · rw [hrun]
        exact .inl ((herrors _ _).trans hdisk)
      · rw [hrun]
        exact .inr ⟨rfl, invocation, force, rfl, hforce, hsave⟩
    · have hkeeps := keepsDisk_runCommand invocation.settingsPath (not_exists.1 hinit)
        { console with verbose := invocation.verbose }
      simp only [run, hread]
      rcases hrun : (runCommand invocation.settingsPath invocation.command).run
        { console with verbose := invocation.verbose } with ⟨answer, after⟩
      rw [hrun] at hkeeps
      cases answer with
      | ok u => exact .inl hkeeps
      | error failure => exact .inl ((herrors _ _).trans hkeeps)

end HostOverlay.Cli
