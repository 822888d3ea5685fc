import HostOverlay.Proofs.Disk.Lookup

/-!
# What a walk finds

A walk goes down a tree with a growing list of ignore files around it.  What it finds is described
here without them: `Found visible path node p` says that `p` is the path of a regular file in or
below `node`, reached through entries whose names are all `visible`.

* `found_of_mem_walk`, `mem_walk_of_found`: a walk finds no more, and no less, when the scopes on
  its way judge entries as `visible` does.
* `found_iff`: in a tree that a file system can hold, a file is found by a list of names.
* `Scope.leavesOut_of_isBlank`: without rules only the names that begin with a dot are left out.
* `found_of_mem_files`, `mem_files_iff_found`: the files under a path, with any ignore files and
  with none.
-/

set_option autoImplicit false

namespace HostOverlay

/-! ## Scopes without rules -/

namespace Ignore

/-- No ignore file of the directory has a rule. -/
structure Frame.IsBlank (f : Frame) : Prop where
  ignore : f.ignore = []
  gitignore : f.gitignore = []
  exclude : f.exclude = []

/-- No directory around the entries has a rule, and neither has the user. -/
structure Scope.IsBlank (s : Scope) : Prop where
  levels : ∀ l ∈ s.inner ++ s.outer, l.frame.IsBlank
  userRules : s.userRules = []

theorem Scope.IsBlank.enter {s : Scope} (h : s.IsBlank) (dir : String) {frame : Frame}
    (hframe : frame.IsBlank) : (s.enter dir frame).IsBlank := by
  refine ⟨fun l hl ↦ ?_, h.userRules⟩
  obtain rfl | hl := List.mem_cons.1 hl
  · exact hframe
  · exact h.levels l hl

theorem verdict_nil (path : String) (isDir : Bool) : verdict [] path isDir = .silent := rfl

theorem ignoreVerdict_of_isBlank {views : List (Frame × String)}
    (h : ∀ v ∈ views, v.1.IsBlank) (isDir : Bool) : ignoreVerdict isDir views = .silent := by
  induction views with
  | nil => rfl
  | cons v rest ih =>
    rw [List.forall_mem_cons] at h
    rw [ignoreVerdict, h.1.ignore, verdict_nil, ih h.2]
    rfl

theorem repositoryVerdict_of_nil {select : Frame → List Rule} {views : List (Frame × String)}
    (h : ∀ v ∈ views, select v.1 = []) (isDir : Bool) :
    repositoryVerdict select isDir views = .silent := by
  induction views with
  | nil => rfl
  | cons v rest ih =>
    rw [List.forall_mem_cons] at h
    rw [repositoryVerdict, h.1, verdict_nil, ih h.2, ite_self]
    rfl

/-- **Without rules only hidden names are left out.** -/
theorem Scope.leavesOut_of_isBlank {s : Scope} (h : s.IsBlank) (path name : String)
    (isDir : Bool) : s.leavesOut path name isDir = isHidden name := by
  have hviews : ∀ v ∈ s.views path, v.1.IsBlank := by
    intro v hv
    rw [Scope.views, List.mem_append, List.mem_map, List.mem_map] at hv
    rcases hv with ⟨l, hl, rfl⟩ | ⟨l, hl, rfl⟩
    · exact h.levels l (List.mem_append_left _ hl)
    · exact h.levels l (List.mem_append_right _ hl)
  have huser : s.userVerdict path isDir = .silent := by
    rw [Scope.userVerdict, h.userRules, verdict_nil]
  have hsilent : judge (s.views path) (s.userVerdict path isDir) isDir = .silent := by
    rw [judge, huser, ignoreVerdict_of_isBlank hviews,
      repositoryVerdict_of_nil fun v hv ↦ (hviews v hv).gitignore,
      repositoryVerdict_of_nil fun v hv ↦ (hviews v hv).exclude]
    exact ite_self _
  rw [Scope.leavesOut, hsilent]

end Ignore

/-! ## The directories of a tree -/

namespace Node

mutual

/-- The places of the directories in and below a node. -/
def directories : Node → List Place
  | .dir entries => [] :: directoriesAmong entries
  | _ => []

/-- The places of the directories among and below the entries of a directory. -/
def directoriesAmong : List (String × Node) → List Place
  | [] => []
  | (name, node) :: rest => node.directories.map (name :: ·) ++ directoriesAmong rest

end

theorem mem_directoriesAmong {name : String} {child : Node} {ns : Place}
    (hns : ns ∈ child.directories) : ∀ {entries : List (String × Node)},
      find? name entries = some child → name :: ns ∈ directoriesAmong entries
  | (n, node) :: rest, h => by
    rw [find?] at h
    rw [directoriesAmong, List.mem_append]
    split at h
    · rename_i hn
      obtain rfl := Option.some.inj h
      exact .inl (List.mem_map.2 ⟨ns, hns, by rw [hn]⟩)
    · exact .inr (mem_directoriesAmong hns h)

theorem mem_directories {ns : Place} {es : List (String × Node)} : ∀ {node : Node},
    node.get? ns = some (.dir es) → ns ∈ node.directories := by
  induction ns with
  | nil =>
    intro node h
    obtain rfl := Option.some.inj h
    rw [directories]
    exact List.mem_cons_self
  | cons n ns ih =>
    intro node h
    obtain ⟨entries, child, rfl, hchild, h⟩ := exists_dir_of_get?_cons h
    rw [directories]
    exact List.mem_cons_of_mem _ (mem_directoriesAmong (ih h) hchild)

/-! ## The names in a tree -/

mutual

/-- Do all names below a node pass the test? -/
def everyName (test : String → Bool) : Node → Bool
  | .dir entries => everyNameAmong test entries
  | _ => true

/-- Do all names among and below the entries of a directory pass the test? -/
def everyNameAmong (test : String → Bool) : List (String × Node) → Bool
  | [] => true
  | (name, node) :: rest => test name && node.everyName test && everyNameAmong test rest

end

theorem everyName_of_find? {test : String → Bool} {name : String} {child : Node} :
    ∀ {entries : List (String × Node)}, everyNameAmong test entries = true →
      find? name entries = some child → test name = true ∧ child.everyName test = true
  | (n, node) :: rest, h, hfind => by
    simp only [everyNameAmong, Bool.and_eq_true] at h
    rw [find?] at hfind
    split at hfind
    · rename_i hn
      obtain rfl := Option.some.inj hfind
      exact ⟨hn ▸ h.1.1, h.1.2⟩
    · exact everyName_of_find? h.2 hfind

/-- The names on the way to an entry are names in the tree. -/
theorem test_of_everyName {test : String → Bool} {place : Place} : ∀ {node found : Node},
    node.everyName test = true → node.get? place = some found → ∀ n ∈ place, test n = true := by
  induction place with
  | nil => simp
  | cons name rest ih =>
    intro node found h hget
    obtain ⟨entries, child, rfl, hchild, hget⟩ := exists_dir_of_get?_cons hget
    rw [everyName] at h
    obtain ⟨hname, hbelow⟩ := everyName_of_find? h hchild
    exact List.forall_mem_cons.2 ⟨hname, ih hbelow hget⟩

end Node

namespace Disk

open Ignore (Frame Scope)

/-! ## Files below a node -/

/-- In and below the node at `path` there is a regular file with the path `p`.  The names on the way
to it are visible, and the directories on the way have paths by which they can be listed. -/
inductive Found (visible : String → Prop) : String → Node → String → Prop
  | file (path : String) (content : ByteArray) (modified : Int) :
    Found visible path (.file content modified) path
  | entry {path p : String} {entries : List (String × Node)} {e : String × Node}
    (size_le : Path.size path ≤ maxPath) (mem : e ∈ entries) (isVisible : visible e.1)
    (found : Found visible (Path.join path e.1) e.2 p) : Found visible path (.dir entries) p

section

variable (Inv : Scope → Prop) {visible : String → Prop} {load : String → Frame}

/-- A walk finds nothing else, if the scopes on its way pass over all that is not visible.  `Inv` is
what is known about these scopes. -/
theorem found_of_mem_walk
    (hpass : ∀ scope path name node, Inv scope → isPassedOver scope path name node = false →
      visible name)
    {node : Node} (hnode : node.IsRealizable) : ∀ {scope : Scope} {path p : String}, Inv scope →
      (∀ ns entries scope, node.get? ns = some (.dir entries) → Inv scope →
        Inv (scope.enter (ns.foldl Path.join path) (load (ns.foldl Path.join path)))) →
      .file p ∈ walk load scope path node → Found visible path node p := by
  induction hnode with
  | file content modified =>
    intro scope path p hscope hload h
    rw [walk, List.mem_singleton, Finding.file.injEq] at h
    obtain rfl := h
    exact .file p content modified
  | link target =>
    intro scope path p hscope hload h
    rw [walk] at h
    cases h
  | dir distinct names nodes ih =>
    intro scope path p hscope hload h
    rw [walk] at h
    split at h
    · simp at h
    · rename_i hsize
      obtain ⟨e, he, hkept, h⟩ := mem_walkEntries_iff.1 h
      have hscope' := hload [] _ scope rfl hscope
      refine .entry (Nat.not_lt.1 hsize) he (hpass _ _ _ _ hscope' hkept) ?_
      refine ih e he hscope' (fun ns entries scope hget ↦ ?_) h
      refine hload (e.1 :: ns) entries scope ?_
      rw [Node.get?_cons_dir, Node.find?_of_mem distinct he, Option.bind_some, hget]

/-- A walk finds all of it, if the scopes on its way pass over nothing that is visible. -/
theorem mem_walk_of_found
    (hpass : ∀ scope path name node, Inv scope → visible name →
      isPassedOver scope path name node = false)
    {path p : String} {node : Node} (h : Found visible path node p) : ∀ {scope : Scope},
      node.IsRealizable → Inv scope →
      (∀ ns entries scope, node.get? ns = some (.dir entries) → Inv scope →
        Inv (scope.enter (ns.foldl Path.join path) (load (ns.foldl Path.join path)))) →
      .file p ∈ walk load scope path node := by
  induction h with
  | file path content modified =>
    intro scope hnode hscope hload
    rw [walk, List.mem_singleton]
  | @entry path p entries e size_le mem isVisible found ih =>
    intro scope hnode hscope hload
    obtain ⟨distinct, hentries⟩ := Node.isRealizable_dir_iff.1 hnode
    have hscope' := hload [] _ scope rfl hscope
    rw [walk, if_neg (Nat.not_lt.2 size_le), mem_walkEntries_iff]
    refine ⟨e, mem, hpass _ _ _ _ hscope' isVisible, ?_⟩
    refine ih (hentries e mem).2 hscope' fun ns es scope hget ↦ ?_
    refine hload (e.1 :: ns) es scope ?_
    rw [Node.get?_cons_dir, Node.find?_of_mem distinct mem, Option.bind_some, hget]

end

/-- The way by `ns` from the node at `path` leads to a regular file whose directory has a path by
which it can be listed. -/
structure LeadsToFile (path : String) (node : Node) (ns : List String) : Prop where
  isFile : ∃ content modified, node.get? ns = some (.file content modified)
  size_le : ns ≠ [] → Path.size (ns.dropLast.foldl Path.join path) ≤ maxPath

/-- One more directory in front of the way. -/
theorem leadsToFile_cons_iff {path n : String} {entries : List (String × Node)}
    {ns : List String} (hns : ∀ m ∈ n :: ns, Path.isAbsolute m = false) :
    LeadsToFile path (.dir entries) (n :: ns) ↔ Path.size path ≤ maxPath ∧
      ∃ child, Node.find? n entries = some child ∧ LeadsToFile (Path.join path n) child ns := by
  have hsize : Path.size ((n :: ns).dropLast.foldl Path.join path) ≤ maxPath ↔
      Path.size path ≤ maxPath ∧
        (ns ≠ [] → Path.size (ns.dropLast.foldl Path.join (Path.join path n)) ≤ maxPath) := by
    cases ns with
    | nil => simp
    | cons m ms =>
      rw [List.dropLast_cons_cons, List.foldl_cons]
      have hle := Nat.le_trans (Path.size_le_size_join path (hns n List.mem_cons_self))
        (Path.size_le_size_foldl_join (fun k hk ↦ hns k (List.mem_cons_of_mem _
          ((List.dropLast_prefix _).subset hk))) (Path.join path n))
      exact ⟨fun h ↦ ⟨Nat.le_trans hle h, fun _ ↦ h⟩, fun h ↦ h.2 (by simp)⟩
  constructor
  · rintro ⟨⟨content, modified, hget⟩, hshort⟩
    obtain ⟨es, child, heq, hchild, hget⟩ := Node.exists_dir_of_get?_cons hget
    obtain rfl := Node.dir.inj heq
    obtain ⟨hpath, hrest⟩ := hsize.1 (hshort (List.cons_ne_nil _ _))
    exact ⟨hpath, child, hchild, ⟨content, modified, hget⟩, hrest⟩
  · rintro ⟨hpath, child, hchild, ⟨content, modified, hget⟩, hrest⟩
    refine ⟨⟨content, modified, ?_⟩, fun _ ↦ hsize.2 ⟨hpath, hrest⟩⟩
    rw [Node.get?_cons_dir, hchild, Option.bind_some, hget]

/-- **A file is found by names** that lead to it. -/
theorem found_iff {visible : String → Prop} {node : Node} (hnode : node.IsRealizable)
    {path p : String} :
    Found visible path node p ↔
      ∃ ns : List String, LeadsToFile path node ns ∧ (∀ n ∈ ns, visible n) ∧
        p = ns.foldl Path.join path := by
  constructor
  · intro h
    induction h with
    | file path content modified => exact ⟨[], ⟨⟨content, modified, rfl⟩, by simp⟩, by simp, rfl⟩
    | @entry path p entries e size_le mem isVisible found ih =>
      obtain ⟨distinct, hentries⟩ := Node.isRealizable_dir_iff.1 hnode
      obtain ⟨hname, hchild⟩ := hentries e mem
      obtain ⟨ns, hway, hvisible, rfl⟩ := ih hchild
      obtain ⟨⟨content, modified, hget⟩, -⟩ := id hway
      have hrel : ∀ m ∈ e.1 :: ns, Path.isAbsolute m = false := fun m hm ↦
        Path.isAbsolute_of_no_slash ((List.forall_mem_cons.2
          ⟨hname, hchild.isEntryName hget⟩ : ∀ m ∈ e.1 :: ns, IsEntryName m) m hm).isName.no_slash
      exact ⟨e.1 :: ns, (leadsToFile_cons_iff hrel).2
        ⟨size_le, e.2, Node.find?_of_mem distinct mem, hway⟩,
        List.forall_mem_cons.2 ⟨isVisible, hvisible⟩, rfl⟩
  · rintro ⟨ns, hway, hvisible, rfl⟩
    induction ns generalizing node path with
    | nil =>
      obtain ⟨⟨content, modified, hget⟩, -⟩ := hway
      obtain rfl := Option.some.inj hget
      exact .file path content modified
    | cons n ns ih =>
      obtain ⟨⟨content, modified, hget⟩, -⟩ := id hway
      have hrel : ∀ m ∈ n :: ns, Path.isAbsolute m = false := fun m hm ↦
        Path.isAbsolute_of_no_slash (hnode.isEntryName hget m hm).isName.no_slash
      obtain ⟨entries, _, rfl, -, -⟩ := Node.exists_dir_of_get?_cons hget
      obtain ⟨hpath, child, hchild, hrest⟩ := (leadsToFile_cons_iff hrel).1 hway
      rw [List.forall_mem_cons] at hvisible
      have hmem := Node.mem_of_find? hchild
      exact .entry hpath hmem hvisible.1
        (ih ((Node.isRealizable_dir_iff.1 hnode).2 _ hmem).2 hrest hvisible.2)

/-! ## Every file once -/

/-- The moves of a path with names joined to it. -/
theorem moves_foldl_join_names {ns : List String} (hns : ∀ n ∈ ns, Path.IsName n) (path : String) :
    Path.moves (ns.foldl Path.join path) = Path.moves path ++ ns.map .name := by
  induction ns generalizing path with
  | nil => simp
  | cons n ns ih =>
    rw [List.forall_mem_cons] at hns
    rw [List.foldl_cons, ih hns.2, Path.moves_join (Path.isAbsolute_of_no_slash hns.1.no_slash),
      Path.moves_name hns.1, List.append_assoc, List.singleton_append, List.map_cons]

/-- Different names lead to different paths. -/
theorem foldl_join_injective {path : String} {ns ms : List String} (hns : ∀ n ∈ ns, Path.IsName n)
    (hms : ∀ m ∈ ms, Path.IsName m) (h : ns.foldl Path.join path = ms.foldl Path.join path) :
    ns = ms := by
  have hmoves := moves_foldl_join_names hns path
  rw [h, moves_foldl_join_names hms, List.append_cancel_left_eq] at hmoves
  exact ((List.map_inj_right fun _ _ ↦ Path.Component.name.inj).1 hmoves).symm

theorem nodup_walkEntries {load : String → Frame} {scope : Scope} {path : String}
    {entries : List (String × Node)} (distinct : (entries.map Prod.fst).Nodup)
    (hproper : ∀ e ∈ entries, Path.IsName e.1 ∧ e.2.IsProper)
    (hnodes : ∀ e ∈ entries,
      ((walk load scope (Path.join path e.1) e.2).filterMap Finding.file?).Nodup) :
    ((walkEntries load scope path entries).filterMap Finding.file?).Nodup := by
  induction entries with
  | nil => simp [walkEntries]
  | cons e rest ih =>
    rw [List.map_cons, List.nodup_cons] at distinct
    rw [List.forall_mem_cons] at hproper hnodes
    rw [walkEntries, List.filterMap_append, List.nodup_append]
    refine ⟨?_, ih distinct.2 hproper.2 hnodes.2, ?_⟩
    · split
      · exact List.nodup_nil
      · exact hnodes.1
    · -- a path below two entries would have two names at the same step
      rintro p hp q hq rfl
      rw [mem_filterMap_file?] at hp hq
      split at hp
      · cases hp
      obtain ⟨ns, hns, heq⟩ := mem_walk hproper.1.2 hp
      obtain ⟨e', he', -, hq⟩ := mem_walkEntries_iff.1 hq
      obtain ⟨ms, hms, heq'⟩ := mem_walk (hproper.2 e' he').2 hq
      have hsame : e.1 :: ns = e'.1 :: ms :=
        foldl_join_injective (List.forall_mem_cons.2 ⟨hproper.1.1, hns⟩)
          (List.forall_mem_cons.2 ⟨(hproper.2 e' he').1, hms⟩) (heq.symm.trans heq')
      exact distinct.1 ((List.cons.inj hsame).1 ▸ List.mem_map_of_mem he')

/-- **A walk comes upon every file once.** -/
theorem nodup_walk {load : String → Frame} {node : Node} (hnode : node.IsRealizable) :
    ∀ {scope : Scope} {path : String},
      ((walk load scope path node).filterMap Finding.file?).Nodup := by
  induction hnode with
  | file content modified =>
    intro scope path
    simp [walk, Finding.file?]
  | link target =>
    intro scope path
    simp [walk]
  | dir distinct names nodes ih =>
    intro scope path
    rw [walk]
    split
    · exact List.nodup_nil
    · exact nodup_walkEntries distinct (fun e he ↦ ⟨(names e he).isName, (nodes e he).isProper⟩)
        fun e he ↦ ih e he

theorem nodup_files {d : Disk} (hd : d.root.IsRealizable) {root : String} {listing : Listing}
    (h : d.filesUnder root = .ok listing) : listing.files.Nodup := by
  rw [filesUnder] at h
  split at h
  · obtain rfl := Except.ok.inj h
    exact List.nodup_nil
  · cases hlookup : d.lookup root with
    | error e =>
      rw [hlookup] at h
      cases h
    | ok found =>
      rw [hlookup] at h
      obtain rfl := Except.ok.inj h
      exact nodup_walk (hd.get? (get?_of_lookup hlookup))

/-! ## Files under a path -/

/-- The property holds of every directory in the tree under `root`, by its path, and of every
directory above it. -/
def EveryDirectory (d : Disk) (root : String) (P : String → Prop) : Prop :=
  ∀ place node, d.lookup root = .ok (place, node) →
    (∀ ns entries, node.get? ns = some (.dir entries) → P (ns.foldl Path.join root)) ∧
    ∀ k < place.length, P (Ignore.pathOf (place.take k))

/-- It is enough to look at the directories that there are. -/
theorem everyDirectory_of_lookup {d : Disk} {root : String} {place : Place} {node : Node}
    (h : d.lookup root = .ok (place, node)) {P : String → Prop}
    (hbelow : ∀ ns ∈ node.directories, P (ns.foldl Path.join root))
    (habove : ∀ k < place.length, P (Ignore.pathOf (place.take k))) : d.EveryDirectory root P := by
  intro place' node' h'
  obtain ⟨rfl, rfl⟩ := Prod.mk.inj (Except.ok.inj (h.symm.trans h'))
  exact ⟨fun ns entries hget ↦ hbelow ns (Node.mem_directories hget), habove⟩

/-- The directory at `dir` has no ignore file. -/
structure HasNoIgnoreFile (d : Disk) (dir : String) : Prop where
  ignore : d.reaches (Path.join dir ".ignore") = false
  gitignore : d.reaches (Path.join dir ".gitignore") = false
  exclude : d.reaches (Path.join (Path.join dir ".git") "info/exclude") = false

instance (d : Disk) (dir : String) : Decidable (d.HasNoIgnoreFile dir) :=
  decidable_of_iff (d.reaches (Path.join dir ".ignore") = false ∧
      d.reaches (Path.join dir ".gitignore") = false ∧
      d.reaches (Path.join (Path.join dir ".git") "info/exclude") = false)
    ⟨fun ⟨h₁, h₂, h₃⟩ ↦ ⟨h₁, h₂, h₃⟩, fun h ↦ ⟨h.1, h.2, h.3⟩⟩

/-- A path that has no room for the name of an ignore file leads to none. -/
theorem hasNoIgnoreFile_of_long (d : Disk) {dir : String} (h : maxPath < Path.size dir + 7) :
    d.HasNoIgnoreFile dir := by
  have hlong : ∀ {path n : String}, Path.isAbsolute n = false →
      maxPath < Path.size path + Path.size n → d.reaches (Path.join path n) = false := by
    intro path n hrel hsize
    rw [reaches, seek_of_too_long
      (Nat.lt_of_lt_of_le hsize (Path.size_add_size_le_size_join path hrel))]
    rfl
  have hgit := Path.size_add_size_le_size_join dir (show Path.isAbsolute ".git" = false by decide)
  have hsize : Path.size ".ignore" = 7 ∧ Path.size ".gitignore" = 10 ∧
      Path.size "info/exclude" = 12 := by decide
  exact ⟨hlong (by decide) (by omega), hlong (by decide) (by omega),
    hlong (by decide) (by omega)⟩

/-- The directory at `dir` has no file `.git`, which could name a repository elsewhere. -/
def HasNoGitFile (d : Disk) (dir : String) : Prop :=
  d.reachesFile (Path.join dir ".git") = false

instance (d : Disk) (dir : String) : Decidable (d.HasNoGitFile dir) :=
  inferInstanceAs (Decidable (_ = false))

theorem File.rules_load_of_absent {d : Disk} {path : String}
    (h : d.reaches path = false) : (Ignore.File.load d path).rules = [] := by
  obtain ⟨e, hfetch⟩ : ∃ e, d.fetch path = .error e := by
    rw [reaches] at h
    rw [fetch]
    cases hseek : d.seek path with
    | ok found =>
      rw [hseek] at h
      cases h
    | error e => exact ⟨e, rfl⟩
  rw [Ignore.File.load, hfetch]

theorem HasNoIgnoreFile.isBlank {d : Disk} {dir : String} (h : d.HasNoIgnoreFile dir)
    (hgit : d.HasNoGitFile dir) : (Frame.load d dir).IsBlank := by
  have hshared : Ignore.sharedDirectory d dir = .ok (Path.join dir ".git") := by
    rw [Ignore.sharedDirectory, hgit]
    rfl
  refine ⟨File.rules_load_of_absent h.ignore, File.rules_load_of_absent h.gitignore, ?_⟩
  simp only [Frame.load, hshared]
  exact File.rules_load_of_absent h.exclude

theorem isBlank_around {d : Disk} {place : Place}
    (h : ∀ k < place.length, (Frame.load d (Ignore.pathOf (place.take k))).IsBlank)
    (huser : d.userExcludes = none) (root : String) : (Scope.around d root place).IsBlank := by
  refine ⟨fun l hl ↦ ?_, by rw [Scope.around, Ignore.userRules, huser]⟩
  rw [Scope.around, List.nil_append, Ignore.levelsAbove, List.mem_map] at hl
  obtain ⟨k, hk, rfl⟩ := hl
  rw [List.mem_reverse, List.mem_range] at hk
  exact h k hk

/-- What is under a path that leads to something can be listed. -/
theorem exists_filesUnder {d : Disk} {root : String} {found : Place × Node}
    (h : d.lookup root = .ok found) : ∃ listing, d.filesUnder root = .ok listing := by
  rw [filesUnder, h]
  split <;> exact ⟨_, rfl⟩

theorem isPassedOver_eq_false_iff {scope : Scope} {path name : String} {node : Node} :
    isPassedOver scope path name node = false ↔
      scope.leavesOut path name node.isDir = false ∧ name ∉ skippedNames := by
  rw [isPassedOver, Bool.or_eq_false_iff, List.contains_eq_mem, decide_eq_false_iff_not]

section

variable {d : Disk} {root : String} {listing : Listing} (h : d.filesUnder root = .ok listing)

include h

/-- The files under a path are those that a walk from there finds. -/
theorem mem_files_iff (hroot : isStandardInput root = false) {p : String} :
    p ∈ listing.files ↔ ∃ place node, d.lookup root = .ok (place, node) ∧
      .file p ∈ walk (Frame.load d) (Scope.around d root place) root node := by
  rw [filesUnder, hroot] at h
  cases hlookup : d.lookup root with
  | error e =>
    rw [hlookup] at h
    cases h
  | ok found =>
    rw [hlookup] at h
    obtain rfl := Except.ok.inj h
    simp only [mem_filterMap_file?, Except.ok.injEq]
    constructor
    · intro hp
      exact ⟨found.1, found.2, rfl, hp⟩
    · rintro ⟨place, node, rfl, hp⟩
      exact hp

theorem not_mem_files_of_isStandardInput (hroot : isStandardInput root = true) (p : String) :
    p ∉ listing.files := by
  rw [filesUnder, hroot] at h
  obtain rfl := Except.ok.inj h
  exact List.not_mem_nil

/-- Files are found under a path only if it is a text. -/
theorem isText_of_mem_files {p : String} (hp : p ∈ listing.files) : Path.IsText root := by
  cases hroot : isStandardInput root with
  | true => exact absurd hp (not_mem_files_of_isStandardInput h hroot p)
  | false =>
    obtain ⟨place, node, hlookup, -⟩ := (mem_files_iff h hroot).1 hp
    exact (lookup_eq_ok_iff_seek.1 hlookup).1

/-- **Whatever ignore files say**, the files under a path are regular files below it, with no
skipped name on the way to them. -/
theorem found_of_mem_files (hd : d.root.IsRealizable) {p : String} (hp : p ∈ listing.files) :
    ∃ place node, d.lookup root = .ok (place, node) ∧ Found (· ∉ skippedNames) root node p := by
  cases hroot : isStandardInput root with
  | true => exact absurd hp (not_mem_files_of_isStandardInput h hroot p)
  | false =>
    obtain ⟨place, node, hlookup, hp⟩ := (mem_files_iff h hroot).1 hp
    refine ⟨place, node, hlookup, ?_⟩
    exact found_of_mem_walk (fun _ ↦ True)
      (fun scope path name node _ hkept ↦ (isPassedOver_eq_false_iff.1 hkept).2)
      (hd.get? (get?_of_lookup hlookup)) trivial (fun _ _ _ _ _ ↦ trivial) hp

/-- **Without ignore files** and excludes of the user, the files under a path are all regular files
below it with no skipped and no hidden name on the way to them. -/
theorem mem_files_iff_found (hd : d.root.IsRealizable) (hroot : isStandardInput root = false)
    (hfree : d.EveryDirectory root d.HasNoIgnoreFile)
    (hgit : d.EveryDirectory root d.HasNoGitFile) (huser : d.userExcludes = none) {p : String} :
    p ∈ listing.files ↔ ∃ place node, d.lookup root = .ok (place, node) ∧
      Found (fun n ↦ n ∉ skippedNames ∧ Ignore.isHidden n = false) root node p := by
  rw [mem_files_iff h hroot]
  refine exists_congr fun place ↦ exists_congr fun node ↦ and_congr_right fun hlookup ↦ ?_
  obtain ⟨hbelow, habove⟩ := hfree place node hlookup
  obtain ⟨hgitBelow, hgitAbove⟩ := hgit place node hlookup
  have hscope := isBlank_around (fun k hk ↦ (habove k hk).isBlank (hgitAbove k hk)) huser root
  have hnode := hd.get? (get?_of_lookup hlookup)
  have hjudge : ∀ (scope : Scope) (path name : String) (node : Node), scope.IsBlank →
      (isPassedOver scope path name node = false ↔
        name ∉ skippedNames ∧ Ignore.isHidden name = false) := by
    intro scope path name node hscope
    rw [isPassedOver_eq_false_iff, Scope.leavesOut_of_isBlank hscope, and_comm]
  have henter : ∀ ns entries (scope : Scope), node.get? ns = some (.dir entries) → scope.IsBlank →
      (scope.enter (ns.foldl Path.join root)
        (Frame.load d (ns.foldl Path.join root))).IsBlank := fun ns entries scope hget hscope ↦
    hscope.enter _ ((hbelow ns entries hget).isBlank (hgitBelow ns entries hget))
  constructor
  · exact found_of_mem_walk Scope.IsBlank
      (fun scope path name node hscope ↦ (hjudge scope path name node hscope).1) hnode
      hscope henter
  · intro hfound
    exact mem_walk_of_found Scope.IsBlank
      (fun scope path name node hscope ↦ (hjudge scope path name node hscope).2) hfound hnode
      hscope henter

end

end Disk

end HostOverlay
