import HostOverlay.Proofs.Path.Compose
import HostOverlay.Proofs.Workbench.Answers
import HostOverlay.Proofs.Workbench.Tracking

/-!
# Where definitions lead

Every definition request of a project is answered with one file in the directory of the project.
The path of this directory is taken from the name of the project as it is spelt there.  It is made
absolute, which keeps every `..`, and only then folded, together with the path of the file.

None of these spellings shows in the end, since they all say the same and the last one folds it.

* `resolve_of_absolute?`: a path may be made absolute before something is resolved against it.
* `canonicalPath_spec` says what the path of the file comes to, for every name of a project, and for
  the name that a workbench gives to its own.
-/

set_option autoImplicit false

namespace HostOverlay

open HostOverlay.Path (resolve directory isAbsolute moves join)

/-! ## Resolving against an absolute path -/

namespace Path

theorem isCanonical_resolve {base : String} (h : isAbsolute base = true) (other : String) :
    IsCanonical (resolve base other) := by
  rw [resolve_eq]
  exact isCanonical_normal (by rw [isAbsolute_join, h, Bool.or_true])

/-- **A path may be made absolute before something is resolved against it.** -/
theorem resolve_of_absolute? {cwd p root : String} (hcwd : isAbsolute cwd = true)
    (h : absolute? cwd p = some root) (other : String) :
    resolve root other = resolve (resolve cwd p) other := by
  obtain ⟨habs, hmoves⟩ := absolute?_spec hcwd h
  have hjoin : isAbsolute (join cwd p) = true := by rw [isAbsolute_join, hcwd, Bool.or_true]
  calc resolve root other
    _ = resolve (join cwd p) other := resolve_congr (habs.trans hjoin.symm) hmoves rfl rfl
    _ = resolve (resolve cwd p) other := by
      rw [resolve_eq, resolve_eq, resolve_eq, normal_join_normal_left]

end Path

/-! ## The root of a project -/

namespace Context

theorem rootPath_eq (project : String) :
    rootPath project = if directory project = "" then "." else directory project := by
  rw [rootPath, directory]
  cases Path.parent? project with
  | none => rfl
  | some parent => rfl

theorem absolute?_of_rootOf {cwd project root : String} (h : rootOf cwd project = .ok root) :
    Path.absolute? cwd (rootPath project) = some root := by
  rw [rootOf] at h
  split at h
  · rename_i hroot
    obtain rfl := Except.ok.inj h
    exact hroot
  · cases h

/-- A project that is defined by a file in an absolute directory has this directory for its root,
though it may be spelt in another way. -/
theorem rootOf_join {cwd dir file home : String} (hcwd : isAbsolute cwd = true)
    (hdir : isAbsolute dir = true) (hfile : Path.IsName file)
    (h : rootOf cwd (join dir file) = .ok home) :
    isAbsolute home = true ∧ moves home = moves dir := by
  have hrel : isAbsolute file = false := Path.isAbsolute_of_no_slash hfile.no_slash
  have hmoves : moves (join dir file) = moves dir ++ [.name file] := by
    rw [Path.moves_join hrel, Path.moves_name hfile]
  have hne : moves (join dir file) ≠ [] := by simp [hmoves]
  obtain ⟨hparentAbs, hparent⟩ := Path.directory_spec hne
  rw [Path.isAbsolute_join, hdir, Bool.or_true] at hparentAbs
  rw [hmoves, List.dropLast_concat] at hparent
  have hnonempty : directory (join dir file) ≠ "" := by
    intro hempty
    rw [hempty] at hparentAbs
    cases hparentAbs
  have habsolute := absolute?_of_rootOf h
  rw [rootPath_eq, if_neg hnonempty] at habsolute
  rw [← hparent, ← Path.join_of_isAbsolute hparentAbs]
  exact Path.absolute?_spec hcwd habsolute

end Context

/-! ## The target of a workbench -/

namespace Workbench

variable {σ : Type} [Traced σ] [OnDisk σ] [LawfulWorld σ]

/-- A workbench that was opened looks for definitions from the directory that it was opened at, and
that is where its service leads. -/
theorem definition_of_openAt {path : String} {settings : Settings} {s s' : σ} {w : Workbench σ}
    (hcwd : isAbsolute (OnDisk.disk s).workingDirectory = true)
    (hopen : (openAt path settings).run s = (.ok w, s')) :
    ∃ root home, Path.absolute? (OnDisk.disk s).workingDirectory path = some root ∧
      Context.rootOf (OnDisk.disk s).workingDirectory w.project.name = .ok home ∧
      (∀ file : String, resolve home file = resolve root file) ∧
      ∀ (file : String) (position : Nat) (s₁ : σ),
        ((w.service.definition file position).run s₁).1 = .ok (some
          ⟨[DefinitionResolver.fixedDefinition (resolve root settings.definitionFile)],
            ⟨0, 0⟩⟩) := by
  have hreads := (reads_openAt path settings s).1
  rw [hopen] at hreads
  obtain ⟨root, home, hroot, hhome, rfl⟩ := openedOn_eq_ok hreads.symm
  obtain ⟨habs, -⟩ := Path.absolute?_spec hcwd hroot
  obtain ⟨hhomeAbs, hmoves⟩ := Context.rootOf_join hcwd habs (by decide) hhome
  have hresolve : ∀ file, resolve home file = resolve root file := fun file ↦
    Path.resolve_congr (hhomeAbs.trans habs.symm) hmoves rfl rfl
  refine ⟨root, home, hroot, hhome, hresolve, fun file position s₁ ↦ ?_⟩
  rw [(reads_definition settings root _ home file position s₁).1, hresolve]

/-- **The file that definitions lead to.**  Whatever a project is called, it has a root.  The path
of the file is canonical, and it is found by folding twice: the directory part of the project's name
as seen from the working directory, and then the file as seen from there.  For a workbench it is the
file as seen from the directory that the workbench was opened at. -/
theorem canonicalPath_spec {cwd : String} (hcwd : isAbsolute cwd = true) :
    (∀ project file : String, ∃ root target, Context.rootOf cwd project = .ok root ∧
      (∀ (logger : Logger σ) (s : σ),
        (DefinitionResolver.fixed file).canonicalPath ⟨root, logger⟩ s = (target, s)) ∧
      let dir := if directory project = "" then "." else directory project
      isAbsolute target = true ∧ Path.IsCanonical target ∧
        target = resolve (resolve cwd dir) file) ∧
    ∀ (path : String) (settings : Settings) (s s' : σ) (w : Workbench σ),
      (OnDisk.disk s).workingDirectory = cwd → (openAt path settings).run s = (.ok w, s') →
      ∃ root home, Path.absolute? cwd path = some root ∧
        Context.rootOf cwd w.project.name = .ok home ∧
        (∀ (file : String) (logger : Logger σ) (s₁ : σ),
          (DefinitionResolver.fixed file).canonicalPath ⟨home, logger⟩ s₁ =
            (resolve root file, s₁)) ∧
        ∀ (file : String) (position : Nat) (s₁ : σ),
          ((w.service.definition file position).run s₁).1 = .ok (some
            ⟨[DefinitionResolver.fixedDefinition (resolve root settings.definitionFile)],
              ⟨0, 0⟩⟩) := by
  refine ⟨fun project file ↦ ?_, fun path settings s s' w hs hopen ↦ ?_⟩
  · obtain ⟨root, hroot⟩ := Context.exists_rootOf cwd project
    have habsolute := Context.absolute?_of_rootOf hroot
    have hcanonical : Path.IsCanonical (resolve root file) :=
      Path.isCanonical_resolve (Path.absolute?_spec hcwd habsolute).1 file
    refine ⟨root, resolve root file, hroot,
      fun logger s ↦ DefinitionResolver.canonicalPath_fixed file ⟨root, logger⟩ s,
      hcanonical.isAbsolute, hcanonical, ?_⟩
    rw [← Context.rootPath_eq]
    exact Path.resolve_of_absolute? hcwd habsolute file
  · subst hs
    obtain ⟨root, home, hroot, hhome, hresolve, hdefinition⟩ := definition_of_openAt hcwd hopen
    refine ⟨root, home, hroot, hhome, fun file logger s₁ ↦ ?_, hdefinition⟩
    rw [DefinitionResolver.canonicalPath_fixed, DefinitionResolver.pathIn, hresolve]

/-- A project whose name is a detour, and a workbench that was opened by one. -/
theorem canonicalPath_spec_of_detours :
    let cwd := "/tmp/tz000000"
    isAbsolute cwd = true ∧
      (∃ root, Context.rootOf cwd "lib/..//./src/tsconfig.json/" = .ok root ∧
        (DefinitionResolver.fixed "./d/../a.tzen").canonicalPath
          (⟨root, .diagnostics⟩ : Context Cli.Console) twoDirectories =
            ("/tmp/tz000000/src/a.tzen", twoDirectories)) ∧
      ∃ w s', (openAt "lib/../src/" {}).run twoDirectories = (.ok w, s') ∧
        ((w.service.definition "/tmp/tz000000/src/app.ts" 0).run twoDirectories).1 =
          .ok (some ⟨[DefinitionResolver.fixedDefinition "/tmp/tz000000/src/a.tzen"], ⟨0, 0⟩⟩) := by
  intro cwd
  have hcwd : isAbsolute cwd = true := by
    decide
  obtain ⟨hproject, hworkbench⟩ := canonicalPath_spec (σ := Cli.Console) hcwd
  obtain ⟨root, target, hroot, hcanonical, -, -, htwice⟩ :=
    hproject "lib/..//./src/tsconfig.json/" "./d/../a.tzen"
  obtain ⟨w, s', hopen⟩ := exists_openAt (show "lib/../src/" ≠ "" by decide) {} twoDirectories
  obtain ⟨opened, home, hopened, -, -, hdefinition⟩ :=
    hworkbench "lib/../src/" {} twoDirectories s' w rfl hopen
  have hdetour : Path.absolute? cwd "lib/../src/" = some "/tmp/tz000000/lib/../src/" := by
    decide
  obtain rfl : "/tmp/tz000000/lib/../src/" = opened :=
    Option.some.inj (hdetour.symm.trans hopened)
  have htarget : resolve "/tmp/tz000000/lib/../src/" "a.tzen" = "/tmp/tz000000/src/a.tzen" := by
    decide
  have hfolded : resolve (resolve cwd "lib/..//./src") "./d/../a.tzen" =
      "/tmp/tz000000/src/a.tzen" := by
    decide
  refine ⟨hcwd, ⟨root, hroot, ?_⟩, w, s', hopen, ?_⟩
  · rw [hcanonical .diagnostics, htwice, ← hfolded]
    rfl
  · rw [← htarget]
    exact hdefinition _ 0 twoDirectories

end Workbench

end HostOverlay
