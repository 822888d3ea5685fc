import HostOverlay.Proofs.Disk.Walk
import HostOverlay.Proofs.Script.Endings
import HostOverlay.Proofs.Text.Bytes
import HostOverlay.Proofs.Workbench.Tracking

/-!
# Which files a project has

The files of a project are found by a walk, shown as texts, picked by their endings and sorted.

* `pairwise_bytes_le_projectFiles`, `pairwise_bytes_lt_projectFiles`: they come in ascending order
  of their bytes, and strictly so if no two of them are shown alike.
* `isProjectFile_iff`: the endings that a file of a project may have.
* `Disk.HasTextNames`: every name below the root is a text, so that the files are shown as they are.
* `fileNames_spec` says which files there are.  Without ignore files these are all that one would
  expect, with three exceptions that the walk is responsible for.
-/

set_option autoImplicit false

namespace HostOverlay

namespace Workbench

/-! ## The order of files -/

theorem pairwise_le_sorted (files : List String) : (sorted files).Pairwise (· ≤ ·) := by
  have hsorted : (sorted files).Pairwise fun a b ↦ (!decide (b < a)) = true := by
    refine List.pairwise_mergeSort ?_ ?_ _
    · intro a b c hab hbc
      simp only [Bool.not_eq_true', decide_eq_false_iff_not, not_lt] at hab hbc ⊢
      exact hab.trans hbc
    · intro a b
      simp only [Bool.or_eq_true, Bool.not_eq_true', decide_eq_false_iff_not, not_lt]
      exact le_total a b
  refine hsorted.imp fun hab ↦ ?_
  simpa only [Bool.not_eq_true', decide_eq_false_iff_not, not_lt] using hab

theorem pairwise_bytes_le_projectFiles (found : List String) :
    (projectFiles found).Pairwise fun a b ↦ bytes a ≤ bytes b := by
  refine (pairwise_le_sorted _).imp fun {a b} hab ↦ ?_
  rcases hab.eq_or_lt with rfl | hab
  · exact List.le_refl _
  · exact List.le_of_lt (bytes_lt_bytes hab)

/-- Sorted files that are all different ascend strictly. -/
theorem pairwise_bytes_lt_projectFiles {found : List String}
    (h : (found.map Path.shown).Nodup) :
    (projectFiles found).Pairwise fun a b ↦ bytes a < bytes b := by
  have hnodup : (projectFiles found).Nodup :=
    (List.mergeSort_perm _ _).nodup_iff.2 (h.filter _)
  exact ((pairwise_le_sorted _).and hnodup).imp fun hab ↦
    bytes_lt_bytes (lt_of_le_of_ne hab.1 hab.2)

/-! ## The endings of files -/

/-- The endings that a file of a project may have. -/
def projectEndings : List String := [".tzen", ".ts", ".tsx", ".d.ts", ".js", ".jsx"]

/-- The extensions of sources, in the order in which a path is tested for them. -/
def sourceExtensions : List Extension := [.dts, .tsx, .ts, .jsx, .js]

/-- A path with the ending of a source carries an extension, and not the one of data. -/
theorem exists_of?_of_endsIn {path : String} {e : Extension} (he : e ∈ sourceExtensions)
    (h : endsIn path e.spelling = true) : ∃ e', Extension.of? path = some e' ∧ e' ≠ .json := by
  have hfound : (sourceExtensions.find? fun e ↦ endsIn path e.spelling).isSome = true :=
    List.find?_isSome.2 ⟨e, he, h⟩
  obtain ⟨e', he'⟩ := Option.isSome_iff_exists.1 hfound
  refine ⟨e', ?_, ?_⟩
  · -- data is looked for last
    have hsplit : Extension.bySpecificity = sourceExtensions ++ [.json] := rfl
    rw [Extension.of?, hsplit, List.find?_append, he', Option.some_or]
  · rintro rfl
    exact absurd (List.mem_of_find?_eq_some he') (by decide)

theorem isProjectFile_iff {path : String} :
    isProjectFile path = true ↔ ∃ ending ∈ projectEndings, endsIn path ending = true := by
  rw [isProjectFile, Bool.or_eq_true]
  constructor
  · rintro (h | h)
    · exact ⟨".tzen", by decide, h⟩
    · cases hof : Extension.of? path with
      | none =>
        rw [hof] at h
        cases h
      | some e =>
        rw [hof, decide_eq_true_iff] at h
        refine ⟨e.spelling, ?_, Extension.endsIn_of_of?_eq_some hof⟩
        revert h
        cases e <;> decide
  · rintro ⟨ending, hmem, h⟩
    have hendings : projectEndings ⊆ foreignEnding :: sourceExtensions.map Extension.spelling := by
      decide
    rcases List.mem_cons.1 (hendings hmem) with rfl | hmem
    · exact .inl h
    · obtain ⟨e, he, rfl⟩ := List.mem_map.1 hmem
      obtain ⟨e', hof, he'⟩ := exists_of?_of_endsIn he h
      rw [hof]
      exact .inr (decide_eq_true he')

/-! ## The files of a project -/

end Workbench

/-- From the directory at `root` the names `ns` lead to a regular file.  What lies on the way are
directories; neither they nor the file are behind a link. -/
def Disk.HasFileBelow (d : Disk) (root : String) (ns : List String) : Prop :=
  ∃ place node, d.lookup root = .ok (place, node) ∧
    (∀ ms n, ms ++ [n] <+: ns → ∃ entries, node.get? ms = some (.dir entries)) ∧
    ∃ content modified, node.get? ns = some (.file content modified)

/-- A file that names lead to is the one at the root itself, or it lies below. -/
theorem Disk.exists_found_iff {d : Disk} (hd : d.root.IsRealizable) (visible : String → Prop)
    {root p : String} :
    (∃ place node, d.lookup root = .ok (place, node) ∧ Found visible root node p) ↔
      (p = root ∧ d.isFile root = true) ∨
        ∃ ns, ns ≠ [] ∧ d.HasFileBelow root ns ∧ (∀ n ∈ ns, visible n) ∧
          Path.size (ns.dropLast.foldl Path.join root) ≤ maxPath ∧
          p = ns.foldl Path.join root := by
  constructor
  · rintro ⟨place, node, hlookup, hfound⟩
    obtain ⟨ns, ⟨⟨content, modified, hget⟩, hsize⟩, hvisible, rfl⟩ :=
      (found_iff (hd.get? (get?_of_lookup hlookup))).1 hfound
    by_cases hns : ns = []
    · subst hns
      obtain rfl := Option.some.inj hget
      exact .inl ⟨rfl, by rw [Disk.isFile, hlookup]; rfl⟩
    · exact .inr ⟨ns, hns, ⟨place, node, hlookup,
        fun ms n hms ↦ Node.exists_dir_of_isPrefix hget hms, content, modified, hget⟩, hvisible,
        hsize hns, rfl⟩
  · rintro (⟨rfl, hfile⟩ | ⟨ns, -, ⟨place, node, hlookup, -, hfile⟩, hvisible, hsize, rfl⟩)
    · cases hlookup : d.lookup p with
      | error e =>
        rw [Disk.isFile, hlookup] at hfile
        cases hfile
      | ok found =>
        obtain ⟨place, node⟩ := found
        rw [Disk.isFile, hlookup] at hfile
        cases node with
        | file content modified => exact ⟨place, _, rfl, .file p content modified⟩
        | link target => cases hfile
        | dir entries => cases hfile
    · exact ⟨place, node, hlookup, (found_iff (hd.get? (get?_of_lookup hlookup))).2
        ⟨ns, ⟨hfile, fun _ ↦ hsize⟩, hvisible, rfl⟩⟩

/-- What lies below is shown below the root. -/
theorem Disk.HasFileBelow.shown {d : Disk} (hd : d.root.IsRealizable) {root : String}
    {ns : List String} (h : d.HasFileBelow root ns) :
    Path.shown (ns.foldl Path.join root) = (ns.map Path.shown).foldl Path.join root := by
  obtain ⟨place, node, hlookup, -, content, modified, hget⟩ := h
  have hnames := (hd.get? (get?_of_lookup hlookup)).isEntryName hget
  rw [Path.shown_foldl_join fun n hn ↦ (hnames n hn).isName,
    Path.shown_of_isText (lookup_eq_ok_iff_seek.1 hlookup).1]

theorem Disk.isText_of_isFile {d : Disk} {path : String} (h : d.isFile path = true) :
    Path.IsText path := by
  cases hlookup : d.lookup path with
  | error e =>
    rw [isFile, hlookup] at h
    cases h
  | ok found => exact (lookup_eq_ok_iff_seek.1 hlookup).1

/-- What is shown of the files that names lead to. -/
theorem Disk.exists_shown_iff {d : Disk} (hd : d.root.IsRealizable) (visible : String → Prop)
    {root f : String} :
    (∃ p, (∃ place node, d.lookup root = .ok (place, node) ∧ Found visible root node p) ∧
        Path.shown p = f) ↔
      (f = root ∧ d.isFile root = true) ∨
        ∃ ns, ns ≠ [] ∧ d.HasFileBelow root ns ∧ (∀ n ∈ ns, visible n) ∧
          Path.size (ns.dropLast.foldl Path.join root) ≤ maxPath ∧
          f = (ns.map Path.shown).foldl Path.join root := by
  simp only [exists_found_iff hd]
  constructor
  · rintro ⟨p, ⟨rfl, hfile⟩ | ⟨ns, hne, hbelow, hvisible, hsize, rfl⟩, rfl⟩
    · exact .inl ⟨Path.shown_of_isText (isText_of_isFile hfile), hfile⟩
    · exact .inr ⟨ns, hne, hbelow, hvisible, hsize, hbelow.shown hd⟩
  · rintro (⟨rfl, hfile⟩ | ⟨ns, hne, hbelow, hvisible, hsize, rfl⟩)
    · exact ⟨f, .inl ⟨rfl, hfile⟩, Path.shown_of_isText (isText_of_isFile hfile)⟩
    · exact ⟨_, .inr ⟨ns, hne, hbelow, hvisible, hsize, rfl⟩, hbelow.shown hd⟩

/-! ## Trees of texts -/

/-- Every name below what `root` leads to is a text. -/
def Disk.HasTextNames (d : Disk) (root : String) : Prop :=
  ∀ place node, d.lookup root = .ok (place, node) →
    node.everyName (fun n ↦ decide (Path.IsText n)) = true

/-- It is enough to look at what the root is known to lead to. -/
theorem Disk.hasTextNames_of_lookup {d : Disk} {root : String} {place : Place} {node : Node}
    (h : d.lookup root = .ok (place, node))
    (hnode : node.everyName (fun n ↦ decide (Path.IsText n)) = true) : d.HasTextNames root := by
  intro place' node' h'
  obtain ⟨-, rfl⟩ := Prod.mk.inj (Except.ok.inj (h.symm.trans h'))
  exact hnode

/-- **Where all names are texts, so are the paths of the files.** -/
theorem Disk.HasTextNames.isText {d : Disk} {root : String} (h : d.HasTextNames root)
    (hd : d.root.IsRealizable) {listing : Listing} (hfiles : d.filesUnder root = .ok listing)
    {p : String} (hp : p ∈ listing.files) : Path.IsText p := by
  obtain ⟨place, node, hlookup, hfound⟩ := found_of_mem_files hfiles hd hp
  obtain ⟨ns, ⟨⟨content, modified, hget⟩, -⟩, -, rfl⟩ :=
    (found_iff (hd.get? (get?_of_lookup hlookup))).1 hfound
  refine Path.IsText.foldl_join (fun n hn ↦ ?_) (lookup_eq_ok_iff_seek.1 hlookup).1
  exact of_decide_eq_true (Node.test_of_everyName (h place node hlookup) hget n hn)

namespace Workbench

variable {σ : Type} [Traced σ] [OnDisk σ]

/-- **Which files a project has.**  In any tree, whatever its ignore files say, they ascend by their
bytes, have one of the endings, and are the root itself or regular files below it, with no link and
no skipped name on the way.  Names that are no texts are shown with replacement characters; where
there are none, the files ascend strictly.  In a tree without ignore files, for a user without
excludes, the files are all of those that have no name with a dot in front on the way, if only the
directory of the file has a path by which it can be listed, and the root is not spelt as the
standard input is. -/
theorem fileNames_spec (root : String) (logger : Logger σ) (s : σ)
    (hs : (OnDisk.disk s).root.IsRealizable) :
    let d := OnDisk.disk s
    let files := ((directoryProject root logger).fileNames s).1
    (files.Pairwise fun a b ↦ bytes a ≤ bytes b) ∧
    (d.HasTextNames root → files.Pairwise fun a b ↦ bytes a < bytes b) ∧
    (∀ f ∈ files, (∃ ending ∈ projectEndings, endsIn f ending = true) ∧
      ((f = root ∧ d.isFile root = true) ∨
        ∃ ns, ns ≠ [] ∧ d.HasFileBelow root ns ∧
          (∀ n ∈ ns, n ∉ ["node_modules", ".git", "target", "dist"]) ∧
          f = (ns.map Path.shown).foldl Path.join root)) ∧
    (d.EveryDirectory root d.HasNoIgnoreFile → d.EveryDirectory root d.HasNoGitFile →
      d.userExcludes = none → Path.components root ≠ [.name "-"] → ∀ f, f ∈ files ↔
      (∃ ending ∈ projectEndings, endsIn f ending = true) ∧
      ((f = root ∧ d.isFile root = true) ∨
        ∃ ns, ns ≠ [] ∧ d.HasFileBelow root ns ∧
          (∀ n ∈ ns, n ∉ ["node_modules", ".git", "target", "dist"] ∧
            Ignore.isHidden n = false) ∧
          Path.size (ns.dropLast.foldl Path.join root) ≤ Disk.maxPath ∧
          f = (ns.map Path.shown).foldl Path.join root)) := by
  intro d files
  cases hfiles : d.filesUnder root with
  | error e =>
    have hnames : files = [] := listFiles_of_error hfiles
    refine ⟨by simp [hnames], by simp [hnames], by simp [hnames], fun hfree hgit huser hroot f ↦ ?_⟩
    -- a root that leads nowhere has no files
    have hnone : ¬ ∃ p, (∃ place node, d.lookup root = .ok (place, node) ∧
        Disk.Found (fun n ↦ n ∉ Disk.skippedNames ∧ Ignore.isHidden n = false) root node p) ∧
        Path.shown p = f := by
      rintro ⟨p, ⟨place, node, hlookup, -⟩, -⟩
      rw [Disk.filesUnder, if_neg (by simpa [Disk.isStandardInput] using hroot), hlookup] at hfiles
      cases hfiles
    rw [Disk.exists_shown_iff hs] at hnone
    simp only [hnames, List.not_mem_nil, false_iff, not_and]
    exact fun _ ↦ hnone
  | ok listing =>
    have hnames : files = projectFiles listing.files := listFiles_of_ok hfiles
    refine ⟨?_, fun htext ↦ ?_, ?_, ?_⟩
    · rw [hnames]
      exact pairwise_bytes_le_projectFiles _
    · rw [hnames]
      refine pairwise_bytes_lt_projectFiles ?_
      rw [Path.map_shown_of_isText fun p hp ↦ htext.isText hs hfiles hp]
      exact Disk.nodup_files hs hfiles
    · intro f hf
      rw [hnames, mem_projectFiles, isProjectFile_iff] at hf
      obtain ⟨⟨p, hp, hshown⟩, hending⟩ := hf
      refine ⟨hending, ?_⟩
      rcases (Disk.exists_shown_iff hs _).1 ⟨p, Disk.found_of_mem_files hfiles hs hp, hshown⟩ with
        h | h
      · exact .inl h
      · obtain ⟨ns, hne, hbelow, hvisible, -, rfl⟩ := h
        exact .inr ⟨ns, hne, hbelow, hvisible, rfl⟩
    · intro hfree hgit huser hroot f
      simp only [hnames, mem_projectFiles, isProjectFile_iff,
        Disk.mem_files_iff_found hfiles hs (decide_eq_false hroot) hfree hgit huser]
      rw [and_comm, Disk.exists_shown_iff hs]
      rfl

/-- A disk with the given entries in its working directory. -/
def workDisk (entries : List (String × Node)) : Disk where
  root := .dir [("tmp", .dir [("tz000000", .dir entries)])]
  workingDirectory := "/tmp/tz000000"

/-- A project with a link, a skipped directory and a hidden file. -/
def mixedProject : Node :=
  .dir [("a.ts", .file .empty 0), ("l.ts", .link "a.ts"), ("dist", .dir [("d.ts", .file .empty 0)]),
    ("src", .dir [("b.tzen", .file .empty 0), (".c.ts", .file .empty 0)])]

/-- A project without ignore files: its sources are found. -/
theorem fileNames_spec_of_mixedProject :
    let d := workDisk [("p", mixedProject)]
    let files := ((directoryProject "p" .diagnostics).fileNames ({ disk := d } : Cli.Console)).1
    d.EveryDirectory "p" d.HasNoIgnoreFile ∧ d.EveryDirectory "p" d.HasNoGitFile ∧
      d.HasTextNames "p" ∧ (files.Pairwise fun a b ↦ bytes a < bytes b) ∧
      "p/src/b.tzen" ∈ files := by
  have hlookup : (workDisk [("p", mixedProject)]).lookup "p" =
    .ok (["tmp", "tz000000", "p"], mixedProject) := rfl
  have hfree := Disk.everyDirectory_of_lookup hlookup
    (P := (workDisk [("p", mixedProject)]).HasNoIgnoreFile) (by decide +kernel) (by decide +kernel)
  have hgit := Disk.everyDirectory_of_lookup hlookup
    (P := (workDisk [("p", mixedProject)]).HasNoGitFile) (by decide +kernel) (by decide +kernel)
  have htext := Disk.hasTextNames_of_lookup hlookup (by decide +kernel)
  obtain ⟨-, hsorted, -, hall⟩ := fileNames_spec "p" .diagnostics
    ({ disk := workDisk [("p", mixedProject)] } : Cli.Console)
    (show (workDisk [("p", mixedProject)]).root.IsRealizable by decide)
  refine ⟨hfree, hgit, htext, hsorted htext, (hall hfree hgit rfl (by decide) _).2
    ⟨⟨".tzen", by decide, by decide⟩, .inr ⟨["src", "b.tzen"], by decide,
      ⟨_, _, hlookup, ?_, _, _, rfl⟩, by decide, by decide, by decide⟩⟩⟩
  exact fun ms n hms ↦ Node.exists_dir_of_isPrefix rfl hms

/-! ## Files that are missed -/

/-- The names lead from the root to a file that belongs to the project, as there is no ignore file
in the tree or above it, and no excludes of the user; and it is not listed. -/
structure IsMissed (d : Disk) (root : String) (ns : List String) : Prop where
  isRealizable : d.root.IsRealizable
  hasNoIgnoreFile : d.EveryDirectory root d.HasNoIgnoreFile
  userExcludes : d.userExcludes = none
  hasFileBelow : d.HasFileBelow root ns
  isVisible : ∀ n ∈ ns, n ∉ ["node_modules", ".git", "target", "dist"] ∧ Ignore.isHidden n = false
  isProjectFile : isProjectFile (ns.foldl Path.join root) = true
  notMem : ns.foldl Path.join root ∉
    ((directoryProject root .diagnostics).fileNames ({ disk := d } : Cli.Console)).1

theorem hasFileBelow_of_get? {d : Disk} {root : String} {place : Place} {node : Node}
    (h : d.lookup root = .ok (place, node)) {ns : List String} {content : ByteArray}
    {modified : Int} (hget : node.get? ns = some (.file content modified)) :
    d.HasFileBelow root ns :=
  ⟨place, node, h, fun _ _ hms ↦ Node.exists_dir_of_isPrefix hget hms, content, modified, hget⟩

/-- A directory with the name of the standard input. -/
def dashDisk : Disk := workDisk [("-", .dir [("a.ts", .file .empty 0)])]

theorem lookup_dash : dashDisk.lookup "-" =
    .ok (["tmp", "tz000000", "-"], .dir [("a.ts", .file .empty 0)]) := rfl

theorem isMissed_dash : IsMissed dashDisk "-" ["a.ts"] where
  isRealizable := by decide
  hasNoIgnoreFile := Disk.everyDirectory_of_lookup lookup_dash (by decide +kernel)
    (by decide +kernel)
  userExcludes := rfl
  hasFileBelow := hasFileBelow_of_get? lookup_dash rfl
  isVisible := by decide
  isProjectFile := by decide
  notMem := by decide +kernel

/-- The directory of a project with a file in place of its repository. -/
def worktreeEntries : List (String × Node) :=
  [(".git", .file "gitdir: g\n".toUTF8 0), ("a.ts", .file .empty 0)]

/-- A project whose repository is elsewhere, and excludes the file of the project. -/
def worktreeDisk : Disk :=
  workDisk [("p", .dir worktreeEntries),
    ("g", .dir [("commondir", .file "r\n".toUTF8 0)]),
    ("r", .dir [("info", .dir [("exclude", .file "a.ts\n".toUTF8 0)])])]

theorem lookup_worktree : worktreeDisk.lookup "p" =
    .ok (["tmp", "tz000000", "p"], .dir worktreeEntries) := rfl

theorem isMissed_worktree : IsMissed worktreeDisk "p" ["a.ts"] where
  isRealizable := by decide
  hasNoIgnoreFile := Disk.everyDirectory_of_lookup lookup_worktree (by decide +kernel)
    (by decide +kernel)
  userExcludes := rfl
  hasFileBelow := hasFileBelow_of_get? lookup_worktree rfl
  isVisible := by decide
  isProjectFile := by decide
  notMem := by decide +kernel

/-- **In a directory whose path is too long nothing is found.** -/
theorem not_mem_fileNames_of_too_long {σ : Type} [Traced σ] [OnDisk σ] {root : String}
    {logger : Logger σ} {s : σ} (hs : (OnDisk.disk s).root.IsRealizable)
    (htext : (OnDisk.disk s).HasTextNames root) {ns : List String}
    (hns : ∀ n ∈ ns, Path.IsName n) (hne : ns ≠ [])
    (hlong : Disk.maxPath < Path.size (ns.dropLast.foldl Path.join root)) :
    ns.foldl Path.join root ∉ ((directoryProject root logger).fileNames s).1 := by
  intro hmem
  obtain ⟨listing, hlisting, p, hmem, hshown⟩ := mem_listFiles hmem
  rw [Path.shown_of_isText (htext.isText hs hlisting hmem)] at hshown
  obtain ⟨place, node, hlookup, hfound⟩ := Disk.found_of_mem_files hlisting hs hmem
  have hnode := hs.get? (Disk.get?_of_lookup hlookup)
  obtain ⟨ms, ⟨⟨content, modified, hget⟩, hsize⟩, -, heq⟩ := (Disk.found_iff hnode).1 hfound
  obtain rfl := Disk.foldl_join_injective hns
    (fun m hm ↦ (hnode.isEntryName hget m hm).isName) (hshown.symm.trans heq)
  exact absurd (hsize hne) (Nat.not_le.2 hlong)

/-- A path to the directory `d` that leaves it and comes back `n` times. -/
def detour : Nat → String
  | 0 => "/tmp/tz000000/d"
  | n + 1 => detour n ++ "/" ++ "../d"

theorem size_detour (n : Nat) : Path.size (detour n) = 15 + 5 * n := by
  induction n with
  | zero => decide
  | succ n ih =>
    have hback : Path.size "../d" = 4 := by decide
    rw [detour, Path.size_slash, ih, hback]
    omega

theorem isText_detour (n : Nat) : Path.IsText (detour n) := by
  induction n with
  | zero => decide
  | succ n ih =>
    rw [detour, Path.isText_append, Path.isText_append]
    exact ⟨⟨ih, by decide⟩, by decide⟩

theorem isPath_detour {n : Nat} (h : n ≤ 816) : Disk.IsPath (detour n) := by
  have hsize := size_detour n
  refine Disk.isPath_iff.2 ⟨isText_detour n, ?_, ?_⟩
  · intro hempty
    rw [hempty, Path.size_empty] at hsize
    omega
  · rw [hsize, Disk.maxPath]
    omega

theorem segments_detour_succ (n : Nat) :
    Path.segments (detour (n + 1)) = Path.segments (detour n) ++ ["..", "d"] := by
  have hback : Path.segments "../d" = ["..", "d"] := by decide
  rw [detour, Path.segments_slash, hback]

theorem exists_detour_eq (n : Nat) : ∃ rest, detour n = "/tmp/tz000000/d" ++ rest := by
  induction n with
  | zero => exact ⟨"", by rw [String.append_empty, detour]⟩
  | succ n ih =>
    obtain ⟨rest, hrest⟩ := ih
    exact ⟨rest ++ ("/" ++ "../d"), by rw [detour, hrest, String.append_assoc, String.append_assoc]⟩

theorem isAbsolute_detour (n : Nat) : Path.isAbsolute (detour n) = true := by
  obtain ⟨rest, hrest⟩ := exists_detour_eq n
  rw [hrest, Path.isAbsolute_append (by decide)]
  decide

/-- The entries of the directory at the end of the detour. -/
def farEntries : List (String × Node) :=
  [("abcde.ts", .file .empty 0), ("subdir", .dir [("x.ts", .file .empty 0)])]

/-- A disk with a directory that detours lead to. -/
def farDisk : Disk := workDisk [("d", .dir farEntries)]

theorem isRealizable_farDisk : farDisk.root.IsRealizable := by decide

/-- However often it turns back, a detour leads to the directory. -/
theorem lookup_detour {n : Nat} (h : n ≤ 816) :
    farDisk.lookup (detour n) = .ok (["tmp", "tz000000", "d"], .dir farEntries) := by
  induction n with
  | zero => rfl
  | succ n ih =>
    obtain ⟨-, hfollow⟩ := Disk.lookup_eq_ok_iff.1 (ih (by omega))
    refine Disk.lookup_eq_ok_iff.2 ⟨isPath_detour h, ?_⟩
    rw [← List.append_nil (Path.segments (detour n))] at hfollow
    obtain ⟨m, hm⟩ := Disk.followLinks_append (by simp) _ _ _ hfollow
    have hstart : farDisk.startOf (detour (n + 1)) = farDisk.startOf (detour n) := by
      rw [Disk.startOf, Disk.startOf, isAbsolute_detour, isAbsolute_detour]
    rw [hstart, segments_detour_succ, hm]
    cases m with
    | zero => rfl
    | succ m => rfl

section

variable {root : String} (hroot : 4090 ≤ Path.size root)

include hroot

theorem maxPath_lt_size_join_subdir : Disk.maxPath < Path.size (Path.join root "subdir") := by
  have hle := Path.size_add_size_le_size_join root
    (show Path.isAbsolute "subdir" = false by decide)
  have hsize : Path.size "subdir" = 6 := by decide
  rw [Disk.maxPath]
  omega

variable {place : Place} (hlookup : farDisk.lookup root = .ok (place, .dir farEntries))
  (hplace : place = ["tmp", "tz000000", "d"])

include hlookup hplace

theorem hasNoIgnoreFile_far : farDisk.EveryDirectory root farDisk.HasNoIgnoreFile := by
  refine Disk.everyDirectory_of_lookup hlookup (fun ns hns ↦ ?_) (by rw [hplace]; decide +kernel)
  have hplaces : ns = [] ∨ ns = ["subdir"] := by
    revert ns
    decide
  have hrel : ∀ n ∈ ns, Path.isAbsolute n = false := by
    rcases hplaces with rfl | rfl <;> decide
  refine Disk.hasNoIgnoreFile_of_long farDisk ?_
  have hle := Path.size_le_size_foldl_join hrel root
  rw [Disk.maxPath]
  omega

omit hroot hplace in
theorem hasTextNames_far : farDisk.HasTextNames root :=
  Disk.hasTextNames_of_lookup hlookup (by decide +kernel)

/-- A long path leaves no room for what is further below. -/
theorem isMissed_far : IsMissed farDisk root ["subdir", "x.ts"] where
  isRealizable := isRealizable_farDisk
  hasNoIgnoreFile := hasNoIgnoreFile_far hroot hlookup hplace
  userExcludes := rfl
  hasFileBelow := hasFileBelow_of_get? hlookup rfl
  isVisible := by decide
  isProjectFile := by
    refine isProjectFile_iff.2 ⟨".ts", by decide, ?_⟩
    rw [List.foldl_cons, List.foldl_cons, List.foldl_nil,
      Path.endsIn_of_getLast? (Disk.getLast?_segments_join _ (by decide)) (by decide)]
    decide
  notMem := not_mem_fileNames_of_too_long (s := ({ disk := farDisk } : Cli.Console))
    isRealizable_farDisk (hasTextNames_far hlookup) (by decide) (by decide)
    (maxPath_lt_size_join_subdir hroot)

end

/-- Two files whose names begin with a byte that is no part of a text. -/
def oddDisk : Disk :=
  workDisk [("p", .dir [("\x00þ.ts", .file .empty 0), ("\x00ÿ.ts", .file .empty 0)])]

theorem filesUnder_oddDisk : (oddDisk.filesUnder "p").toOption.map Disk.Listing.files =
    some ["p/\x00þ.ts", "p/\x00ÿ.ts"] := by
  decide +kernel

/-- The two files are shown alike. -/
theorem fileNames_oddDisk :
    ((directoryProject "p" .diagnostics).fileNames ({ disk := oddDisk } : Cli.Console)).1 =
      ["p/\uFFFD.ts", "p/\uFFFD.ts"] := by
  have hshown : (["p/\x00þ.ts", "p/\x00ÿ.ts"].map Path.shown).filter isProjectFile =
      ["p/\uFFFD.ts", "p/\uFFFD.ts"] := by decide
  have hsorted : projectFiles ["p/\x00þ.ts", "p/\x00ÿ.ts"] = ["p/\uFFFD.ts", "p/\uFFFD.ts"] := by
    rw [projectFiles, hshown]
    refine List.mergeSort_of_pairwise (List.pairwise_pair.2 ?_)
    rw [decide_eq_false (lt_irrefl _), Bool.not_false]
  exact (listFiles_of_files (s := ({ disk := oddDisk } : Cli.Console)) filesUnder_oddDisk).trans
    hsorted

/-- **Without ignore files, some files are missed all the same**, and files whose names are no texts
need not ascend strictly. -/
theorem fileNames_irregular :
    IsMissed dashDisk "-" ["a.ts"] ∧ IsMissed worktreeDisk "p" ["a.ts"] ∧
      IsMissed farDisk (detour 815) ["subdir", "x.ts"] ∧
      oddDisk.root.IsRealizable ∧
      ¬ ((directoryProject "p" .diagnostics).fileNames
        ({ disk := oddDisk } : Cli.Console)).1.Pairwise fun a b ↦ bytes a < bytes b := by
  refine ⟨isMissed_dash, isMissed_worktree,
    isMissed_far (by rw [size_detour]) (lookup_detour (by omega)) rfl, by decide, ?_⟩
  rw [fileNames_oddDisk, List.pairwise_pair]
  exact List.lt_irrefl _

end Workbench

end HostOverlay
