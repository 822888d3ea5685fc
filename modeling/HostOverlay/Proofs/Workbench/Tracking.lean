import HostOverlay.Cli.Console
import HostOverlay.Proofs.Disk.Walk
import HostOverlay.Proofs.Overlay.Attach
import HostOverlay.Workbench.Basic

/-!
# The two names of a foreign file

A workbench spells a foreign file in two ways.  The walk over the project spells it by the root as
it was given, made absolute; this is the name that the host is told to track.  Resolution spells it
by folding the path of the file that it is imported from.  An editor takes the two for one file when
they are equal as texts.

Both say the same, so the second one is the normal form of the first (`Path.resolve_sibling`), and
they are equal exactly when the first one is canonical.  The names that the walk adds are, so it
depends on the root alone: `importedName_eq_iff`.  It must not be spelt with a `..` or with two
slashes at its beginning, since making a path absolute keeps both and resolving folds both away.
-/

set_option autoImplicit false

namespace HostOverlay.Workbench

variable {σ : Type} [Traced σ] [OnDisk σ]

/-! ## What a workbench is made of -/

/-- A project without a configuration entry gets the layer with the capabilities of the plugin. -/
theorem host_of_attach_null {p : Plugin σ} {project : Project σ} {inner : Host σ} {s s' : σ}
    {a : Attachment σ} (h : (p.attach project inner .null).run s = (.ok a, s')) :
    a.host = Overlay.host inner p.storage p.synthesizer := by
  obtain ⟨root, hroot⟩ := Context.exists_rootOf (OnDisk.disk s).workingDirectory project.name
  rw [Plugin.run_attach_of_ok hroot rfl] at h
  obtain ⟨h, -⟩ := Prod.mk.inj h
  obtain rfl := Except.ok.inj h
  rfl

/-- Such a project can always be attached to. -/
theorem exists_attach_null (p : Plugin σ) (project : Project σ) (inner : Host σ) (s : σ) :
    ∃ a s', (p.attach project inner .null).run s = (.ok a, s') := by
  obtain ⟨root, hroot⟩ := Context.exists_rootOf (OnDisk.disk s).workingDirectory project.name
  exact ⟨_, _, Plugin.run_attach_of_ok hroot rfl⟩

/-- **Opening a workbench fails for the empty path only.** -/
theorem exists_openAt {path : String} (h : path ≠ "") (settings : Settings) (s : σ) :
    ∃ w s', (openAt path settings).run s = (.ok w, s') := by
  obtain ⟨root, hroot⟩ : ∃ root,
      Path.absolute? (OnDisk.disk s).workingDirectory path = some root := by
    rw [Path.absolute?, if_neg h]
    exact ⟨_, rfl⟩
  rw [openAt, Request.run_getDisk_bind, hroot]
  simp only [Request.run_lift_bind]
  obtain ⟨a, s', hattach⟩ := exists_attach_null (plugin settings)
    (directoryProject root .diagnostics)
    (diskHost root ((directoryProject root .diagnostics).fileNames s).1)
    ((directoryProject root .diagnostics).fileNames s).2
  exact ⟨_, s', run_bind_of_ok _ hattach⟩

/-- A workbench that was opened has the root that its path leads to, the project in that directory,
and the layer over a disk host. -/
theorem openAt_spec {path : String} {settings : Settings} {s s' : σ} {w : Workbench σ}
    (h : (openAt path settings).run s = (.ok w, s')) :
    Path.absolute? (OnDisk.disk s).workingDirectory path = some w.root ∧
      w.project = directoryProject w.root .diagnostics ∧
      ∃ files synthesizer, w.host = Overlay.host (diskHost w.root files) .onDisk synthesizer := by
  rw [openAt, Request.run_getDisk_bind] at h
  split at h
  · cases h
  · rename_i root hroot
    rw [Request.run_lift_bind] at h
    obtain ⟨attachment, s₁, hattach, hw⟩ := of_run_bind_eq_ok h
    obtain ⟨hw, -⟩ := Prod.mk.inj hw
    obtain rfl := Except.ok.inj hw
    have hhost := host_of_attach_null hattach
    have hstorage : (plugin settings : Plugin σ).storage = .onDisk := rfl
    rw [hstorage] at hhost
    exact ⟨hroot, rfl, _, _, hhost⟩

theorem listFiles_of_ok {root : String} {s : σ} {listing : Disk.Listing}
    (h : (OnDisk.disk s).filesUnder root = .ok listing) :
    (listFiles root s).1 = projectFiles listing.files := by
  rw [listFiles, getDisk_bind, h]
  rfl

theorem listFiles_of_error {root : String} {s : σ} {e : IoError}
    (h : (OnDisk.disk s).filesUnder root = .error e) : (listFiles root s).1 = [] := by
  rw [listFiles, getDisk_bind, h]
  rfl

theorem listFiles_of_files {root : String} {s : σ} {found : List String}
    (h : ((OnDisk.disk s).filesUnder root).toOption.map Disk.Listing.files = some found) :
    (listFiles root s).1 = projectFiles found := by
  cases hfiles : (OnDisk.disk s).filesUnder root with
  | error e =>
    rw [hfiles] at h
    cases h
  | ok listing =>
    rw [hfiles] at h
    rw [listFiles_of_ok hfiles, Option.some.inj h]

theorem mem_projectFiles {found : List String} {f : String} :
    f ∈ projectFiles found ↔ (∃ p ∈ found, Path.shown p = f) ∧ isProjectFile f = true := by
  rw [projectFiles, sorted, List.mem_mergeSort, List.mem_filter, List.mem_map]

/-- The files of a project are among those under its root, as they are shown. -/
theorem mem_listFiles {root f : String} {s : σ} (h : f ∈ (listFiles root s).1) :
    ∃ listing, (OnDisk.disk s).filesUnder root = .ok listing ∧
      ∃ p ∈ listing.files, Path.shown p = f := by
  cases hfiles : (OnDisk.disk s).filesUnder root with
  | error e =>
    rw [listFiles_of_error hfiles] at h
    cases h
  | ok listing =>
    rw [listFiles_of_ok hfiles, mem_projectFiles] at h
    exact ⟨listing, rfl, h.1⟩

/-- The files of a project are shown by its root and names. -/
theorem exists_of_mem_listFiles {root f : String} {s : σ} (hs : (OnDisk.disk s).root.IsProper)
    (h : f ∈ (listFiles root s).1) :
    ∃ ns : List String, (∀ n ∈ ns, Path.IsName n) ∧ f = ns.foldl Path.join root := by
  obtain ⟨listing, hlisting, p, hp, rfl⟩ := mem_listFiles h
  obtain ⟨ns, hns, rfl⟩ := Disk.mem_filesUnder hs hlisting hp
  refine ⟨ns.map Path.shown, fun m hm ↦ ?_, ?_⟩
  · obtain ⟨n, hn, rfl⟩ := List.mem_map.1 hm
    exact (hns n hn).shown
  · rw [Path.shown_foldl_join hns, Path.shown_of_isText (Disk.isText_of_mem_files hlisting hp)]

/-- A file of an opened project is spelt by the root of the project and names. -/
theorem exists_of_mem_fileNames {path : String} {settings : Settings} {s s' : σ} {w : Workbench σ}
    (hopen : (openAt path settings).run s = (.ok w, s')) (hs : (OnDisk.disk s).IsProper) {s₁ : σ}
    (hs₁ : (OnDisk.disk s₁).IsProper) {file : String} (hfile : file ∈ (w.project.fileNames s₁).1)
    (hslash : Path.hasTrailingSlash file = false) :
    ∃ ns : List String, (∀ n ∈ ns, Path.IsName n) ∧
      file = ns.foldl Path.join (Path.spelt (OnDisk.disk s).workingDirectory path) := by
  obtain ⟨hroot, hproject, -⟩ := openAt_spec hopen
  rw [hproject] at hfile
  obtain ⟨ns, hns, rfl⟩ := exists_of_mem_listFiles hs₁.root hfile
  exact ⟨ns, hns, Path.foldl_join_absolute? hs.workingDirectory path hroot hns hslash⟩

/-- What lies under the root of an opened workbench and is fit for a project is a file of it. -/
theorem mem_fileNames_of_filesUnder {path : String} {settings : Settings} {s s' : σ}
    {w : Workbench σ} (hopen : (openAt path settings).run s = (.ok w, s')) {root : String}
    (hroot : Path.absolute? (OnDisk.disk s).workingDirectory path = some root)
    {found : List String} {s₁ : σ}
    (hfound : ((OnDisk.disk s₁).filesUnder root).toOption.map Disk.Listing.files = some found)
    {file : String} (hfile : file ∈ found) (htext : Path.IsText file)
    (hproject : isProjectFile file = true) : file ∈ (w.project.fileNames s₁).1 := by
  obtain ⟨hroot', hw, -⟩ := openAt_spec hopen
  obtain rfl := Option.some.inj (hroot.symm.trans hroot')
  have hnames : (w.project.fileNames s₁).1 = projectFiles found := by
    rw [hw]
    exact listFiles_of_files hfound
  rw [hnames, mem_projectFiles]
  exact ⟨⟨file, hfile, Path.shown_of_isText htext⟩, hproject⟩

/-! ## What an import resolves to -/

/-- A foreign specifier on its own is redirected, whatever is on the disk. -/
theorem run_resolve_foreign (root : String) (files : List String) (storage : Storage σ)
    (synthesizer : Synthesizer σ) (specifier : Specifier) (h : isForeign specifier.text = true)
    (containing : String) (options : ResolutionOptions) (s : σ) :
    ∃ s', ((Overlay.host (diskHost root files) storage synthesizer).resolveModuleNames [specifier]
        containing options).run s =
      (.ok [.resolved (foreignModule specifier containing)], s') := by
  have hinner : ((diskHost root files : Host σ).resolveModuleNames [specifier] containing
      options).run s = (.ok (resolveAll options containing [specifier] s).1,
        (resolveAll options containing [specifier] s).2) := Request.run_lift _ s
  refine ⟨(resolveAll options containing [specifier] s).2, ?_⟩
  have hone : (resolveAll options containing [specifier] s).1 =
      [resolveOne (OnDisk.disk s).isFile options containing specifier] := rfl
  have hredirect : ∀ found, redirect [specifier] containing [found] =
      .ok [.resolved (foreignModule specifier containing)] := by
    intro found
    have hslot : redirectOne containing specifier found =
        .resolved (foreignModule specifier containing) := if_pos h
    rw [← hslot]
    exact if_pos rfl
  rw [Overlay.resolveModuleNames_run _ _ _ hinner, hone, Overlay.redirected, hredirect]

/-- **An import is resolved to the tracked name exactly when the root is spelt without detours.**
Take a workbench that was opened at `path`, a foreign file of its project and a file in the same
directory.  The foreign file is one of those that the host is told to track.  Imported by its name,
it resolves to one module, and that module has the tracked name if and only if `path` has no `..` in
it and does not begin with exactly two slashes. -/
theorem importedName_eq_iff {path : String} {settings : Settings} {s s' : σ} {w : Workbench σ}
    (hopen : (openAt path settings).run s = (.ok w, s')) (hs : (OnDisk.disk s).IsProper) {s₁ : σ}
    (hs₁ : (OnDisk.disk s₁).IsProper) {file name : String}
    (hfile : file ∈ (w.project.fileNames s₁).1) (hforeign : isForeign file = true)
    (hname : (Path.segments file).getLast? = some name) {containing : String}
    (hdir : Path.directory containing = Path.directory file) (options : ResolutionOptions)
    (s₂ : σ) :
    file ∈ (w.externalFiles s₁).1 ∧
      ∃ m s₃, (w.host.resolveModuleNames [⟨"./" ++ name⟩] containing options).run s₂ =
          (.ok [.resolved m], s₃) ∧
        (m.fileName = file ↔ ".." ∉ Path.segments path ∧ Path.anchor path = "/") := by
  obtain ⟨n, hlast, hn⟩ := Path.exists_name_of_isForeign hforeign
  obtain rfl : n = name := Option.some.inj (hlast.symm.trans hname)
  refine ⟨List.mem_filter.2 ⟨hfile, hforeign⟩, ?_⟩
  -- the specifier is foreign as well, so it is redirected
  have hspecifier : isForeign ("./" ++ n) = true := by
    have hlast' : (Path.segments ("./" ++ n)).getLast? = some n := by
      rw [Path.segments_here_append, Path.segments_of_no_slash hn.no_slash]
      rfl
    rw [Path.isForeign_of_getLast? hlast', ← Path.isForeign_of_getLast? hlast, hforeign]
  obtain ⟨-, -, files, synthesizer, hhost⟩ := openAt_spec hopen
  obtain ⟨s₃, hrun⟩ := run_resolve_foreign w.root files .onDisk synthesizer ⟨"./" ++ n⟩ hspecifier
    containing options s₂
  refine ⟨_, s₃, hhost ▸ hrun, ?_⟩
  -- it leads to the normal form of the tracked name
  have hnormal : (foreignModule ⟨"./" ++ n⟩ containing).fileName = Path.normal file := by
    rw [foreignModule, hdir, Path.resolve_sibling hname hn]
  obtain ⟨ns, hns, rfl⟩ := exists_of_mem_fileNames hopen hs hs₁ hfile
    (Path.hasTrailingSlash_of_getLast? hname hn)
  have habs := Path.isAbsolute_foldl_join ns (Path.isAbsolute_spelt hs.workingDirectory path)
  rw [hnormal, Path.normal_eq_self_iff habs,
    Path.isCanonical_below_iff hs.workingDirectory path hns]

/-! ## Two roots for one directory -/

/-- A disk with two directories, and a foreign file in one of them. -/
def twoDirectories : Cli.Console where
  disk := ⟨.dir [("tmp", .dir [("tz000000", .dir [("lib", .dir [("x.ts", .file .empty 0)]),
    ("src", .dir [("app.ts", .file .empty 0), ("g.tzen", .file .empty 0)])])])], "/tmp/tz000000",
    none⟩

theorem isProper_twoDirectories : (OnDisk.disk twoDirectories).IsProper where
  root := Node.IsRealizable.isProper (by decide)
  workingDirectory := ⟨["tmp", "tz000000"], by decide, by decide⟩

/-- A root that is spelt with slashes and dots to spare: both names are the same. -/
theorem importedName_eq_of_spare_slashes :
    ∃ w s', (openAt "./src/.//" {}).run twoDirectories = (.ok w, s') ∧
      "/tmp/tz000000/src/g.tzen" ∈ (w.externalFiles twoDirectories).1 ∧
      ∃ m s₃, (w.host.resolveModuleNames [⟨"./g.tzen"⟩] "/tmp/tz000000/src/app.ts" {}).run
          twoDirectories = (.ok [.resolved m], s₃) ∧
        m.fileName = "/tmp/tz000000/src/g.tzen" := by
  obtain ⟨w, s', hopen⟩ := exists_openAt (show "./src/.//" ≠ "" by decide) {} twoDirectories
  have hfile : "/tmp/tz000000/src/g.tzen" ∈ (w.project.fileNames twoDirectories).1 :=
    mem_fileNames_of_filesUnder hopen rfl
      (show _ = some ["/tmp/tz000000/src/app.ts", "/tmp/tz000000/src/g.tzen"] by decide +kernel)
      (by decide) (by decide) (by decide)
  obtain ⟨htracked, m, s₃, hrun, hiff⟩ := importedName_eq_iff hopen isProper_twoDirectories
    isProper_twoDirectories hfile (by decide) (show _ = some "g.tzen" by decide)
    (show Path.directory "/tmp/tz000000/src/app.ts" = _ by decide) {} twoDirectories
  exact ⟨w, s', hopen, htracked, m, s₃, hrun, hiff.2 (by decide)⟩

/-- The same directory by a detour: the walk keeps the detour in the names it finds, and an import
leads past it. -/
theorem importedName_ne_of_detour :
    ∃ w s', (openAt "lib/../src" {}).run twoDirectories = (.ok w, s') ∧
      "/tmp/tz000000/lib/../src/app.ts" ∈ (w.project.fileNames twoDirectories).1 ∧
      "/tmp/tz000000/lib/../src/g.tzen" ∈ (w.externalFiles twoDirectories).1 ∧
      ∃ m s₃, (w.host.resolveModuleNames [⟨"./g.tzen"⟩] "/tmp/tz000000/lib/../src/app.ts" {}).run
          twoDirectories = (.ok [.resolved m], s₃) ∧
        m.fileName = "/tmp/tz000000/src/g.tzen" ∧
        m.fileName ≠ "/tmp/tz000000/lib/../src/g.tzen" := by
  obtain ⟨w, s', hopen⟩ := exists_openAt (show "lib/../src" ≠ "" by decide) {} twoDirectories
  have hfile : ∀ file ∈ ["/tmp/tz000000/lib/../src/app.ts", "/tmp/tz000000/lib/../src/g.tzen"],
      Path.IsText file → isProjectFile file = true →
        file ∈ (w.project.fileNames twoDirectories).1 := fun file h ↦
    mem_fileNames_of_filesUnder hopen rfl (by decide +kernel) h
  obtain ⟨-, -, files, synthesizer, hhost⟩ := openAt_spec hopen
  obtain ⟨s₃, hrun⟩ := run_resolve_foreign w.root files .onDisk synthesizer ⟨"./g.tzen"⟩
    (by decide) "/tmp/tz000000/lib/../src/app.ts" {} twoDirectories
  refine ⟨w, s', hopen, hfile _ (by decide) (by decide) (by decide), ?_, _, s₃, hhost ▸ hrun,
    by decide, by decide⟩
  exact List.mem_filter.2 ⟨hfile _ (by decide) (by decide) (by decide), by decide⟩

end HostOverlay.Workbench
