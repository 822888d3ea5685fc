import HostOverlay.Proofs.Disk.Lookup

/-!
# Disks without the content of foreign files

`Disk.redacted` is a disk with nothing in its foreign files.  On a disk without links it takes no
more than this away: every path leads to the same place on both disks, every other file has the same
bytes, and a walk finds the same files.  So whatever can be computed from these observations is the
same for two disks with the same redaction.

* `follow_redact`, `lookup_redacted`: following a path.
* `getLast?_of_follow`: a file is reached by its own name, so that only a foreign path leads to a
  foreign file.
* `present_redacted`, `isFile_redacted`, `read_redacted`: the observers of a disk.
* `filesUnder_redacted`: a walk, ignore files included.
-/

set_option autoImplicit false

namespace HostOverlay

namespace Node

/-! ## Trees without links -/

/-- There is no link in or below the node. -/
inductive IsLinkFree : Node → Prop
  | file (content : ByteArray) (modified : Int) : IsLinkFree (.file content modified)
  | dir {entries : List (String × Node)} (nodes : ∀ e ∈ entries, IsLinkFree e.2) :
    IsLinkFree (.dir entries)

theorem isLinkFree_dir_iff {entries : List (String × Node)} :
    (Node.dir entries).IsLinkFree ↔ ∀ e ∈ entries, e.2.IsLinkFree := by
  constructor
  · rintro (_ | ⟨nodes⟩)
    exact nodes
  · exact .dir

theorem IsLinkFree.find? {entries : List (String × Node)} (h : (Node.dir entries).IsLinkFree)
    {name : String} {child : Node} (hchild : find? name entries = some child) :
    child.IsLinkFree :=
  isLinkFree_dir_iff.1 h _ (mem_of_find? hchild)

theorem IsLinkFree.get? {place : Place} : ∀ {node child : Node}, node.IsLinkFree →
    node.get? place = some child → child.IsLinkFree := by
  induction place with
  | nil =>
    intro node child h hget
    exact Option.some.inj hget ▸ h
  | cons name rest ih =>
    intro node child h hget
    obtain ⟨entries, next, rfl, hnext, hget⟩ := exists_dir_of_get?_cons hget
    exact ih (h.find? hnext) hget

/-! ## Redaction -/

mutual

/-- The entry of the given name with nothing in foreign files. -/
def redact (name : String) : Node → Node
  | .file content modified =>
    if isForeign name then .file .empty 0 else .file content modified
  | .link target => .link target
  | .dir entries => .dir (redactEntries entries)

/-- The entries of a directory with nothing in foreign files. -/
def redactEntries : List (String × Node) → List (String × Node)
  | [] => []
  | (name, node) :: rest => (name, node.redact name) :: redactEntries rest

end

theorem redact_dir (name : String) (entries : List (String × Node)) :
    (Node.dir entries).redact name = .dir (redactEntries entries) := by
  rw [redact]

/-- A file stays a file. -/
theorem redact_file (name : String) (content : ByteArray) (modified : Int) :
    ∃ content' modified', (Node.file content modified).redact name = .file content' modified' := by
  rw [redact]
  split
  · exact ⟨_, _, rfl⟩
  · exact ⟨_, _, rfl⟩

theorem isDir_redact (name : String) (node : Node) : (node.redact name).isDir = node.isDir := by
  cases node with
  | file content modified =>
    obtain ⟨content', modified', h⟩ := redact_file name content modified
    rw [h]
    rfl
  | link target => rw [redact]
  | dir entries =>
    rw [redact_dir]
    rfl

theorem isFile_redact (name : String) (node : Node) : (node.redact name).isFile = node.isFile := by
  cases node with
  | file content modified =>
    obtain ⟨content', modified', h⟩ := redact_file name content modified
    rw [h]
    rfl
  | link target => rw [redact]
  | dir entries =>
    rw [redact_dir]
    rfl

theorem find?_redactEntries (name : String) (entries : List (String × Node)) :
    find? name (redactEntries entries) = (find? name entries).map (redact name) := by
  induction entries with
  | nil => rfl
  | cons e rest ih =>
    rw [redactEntries, find?, find?]
    split
    · rename_i h
      rw [Option.map_some, h]
    · exact ih

theorem get?_redact {place : Place} : ∀ (name : String) (node : Node),
    (node.redact name).get? place = (node.get? place).map (redact (place.getLastD name)) := by
  induction place with
  | nil => exact fun name node ↦ rfl
  | cons n rest ih =>
    intro name node
    cases node with
    | file content modified =>
      obtain ⟨content', modified', h⟩ := redact_file name content modified
      rw [h]
      rfl
    | link target =>
      rw [redact]
      rfl
    | dir entries =>
      rw [redact_dir, get?_cons_dir, get?_cons_dir, find?_redactEntries, List.getLastD_cons]
      cases find? n entries with
      | none => rfl
      | some child => exact ih n child

end Node

namespace Disk

/-- The disk with nothing in foreign files. -/
def redacted (d : Disk) : Disk :=
  { d with root := d.root.redact "" }

/-- Where a path leads on the redacted disk. -/
def Landing.redact : Landing → Landing
  | .entry place node => .entry place (node.redact (place.getLastD ""))
  | .vacant directory name => .vacant directory name

/-! ## Following a path -/

theorem follow_redact {root : Node} (hroot : root.IsLinkFree) {purpose : Purpose}
    {onLink onLink' : Place → List String → Except IoError Landing} {ss : List String} :
    ∀ {place : Place}, follow (root.redact "") purpose onLink place ss =
      (follow root purpose onLink' place ss).map Landing.redact := by
  induction ss with
  | nil =>
    intro place
    rw [follow, follow, Node.get?_redact]
    cases root.get? place with
    | none => rfl
    | some node => rfl
  | cons s rest ih =>
    intro place
    rw [follow, follow, Node.get?_redact]
    cases hplace : root.get? place with
    | none => rfl
    | some node =>
      cases node with
      | link target => cases hroot.get? hplace
      | file content modified =>
        obtain ⟨content', modified', h⟩ :=
          Node.redact_file (place.getLastD "") content modified
        rw [Option.map_some, h]
        rfl
      | dir entries =>
        simp only [Option.map_some, Node.redact_dir, Node.find?_redactEntries]
        split
        · exact ih
        split
        · exact ih
        split
        · rfl
        split
        · rfl
        cases hfind : Node.find? s entries with
        | none =>
          simp only [Option.map_none]
          split
          · rfl
          · rfl
        | some child =>
          cases child with
          | link target => cases (hroot.get? hplace).find? hfind
          | file content modified =>
            obtain ⟨content', modified', h⟩ := Node.redact_file s content modified
            rw [Option.map_some, h]
            exact ih
          | dir es =>
            rw [Option.map_some, Node.redact_dir]
            exact ih

/-- **A file is reached by its own name.** -/
theorem getLast?_of_follow {root : Node} (hroot : root.IsLinkFree)
    {onLink : Place → List String → Except IoError Landing} {ss : List String} {q : Place}
    {content : ByteArray} {modified : Int} : ∀ {place : Place}, ss ≠ [] →
      follow root .target onLink place ss = .ok (.entry q (.file content modified)) →
      q.getLast? = ss.getLast? := by
  induction ss with
  | nil => exact fun h ↦ absurd rfl h
  | cons s rest ih =>
    intro place _ h
    -- it is enough to look at a step that ends at a file at once
    have hgo : ∀ next,
        follow root .target onLink next rest = .ok (.entry q (.file content modified)) →
        (root.get? next = some (.file content modified) → next.getLast? = some s) →
        q.getLast? = (s :: rest).getLast? := by
      intro next hnext hlast
      cases rest with
      | nil =>
        rw [follow] at hnext
        split at hnext
        · rename_i node hnode
          obtain ⟨rfl, rfl⟩ := Landing.entry.inj (Except.ok.inj hnext)
          exact hlast hnode
        · cases hnext
      | cons r rs => rw [List.getLast?_cons_cons, ih (List.cons_ne_nil _ _) hnext]
    rw [follow] at h
    split at h
    · cases h
    · rename_i entries hdir
      split at h
      · refine hgo place h fun hfile ↦ ?_
        rw [hdir] at hfile
        cases hfile
      split at h
      · -- what is above a directory is one
        refine hgo place.dropLast h fun hfile ↦ ?_
        obtain ⟨es, hes⟩ : ∃ es, root.get? place.dropLast = some (.dir es) := by
          rcases List.eq_nil_or_concat place with rfl | ⟨init, n, hplace⟩
          · exact ⟨entries, hdir⟩
          · rw [List.concat_eq_append] at hplace
            rw [hplace, List.dropLast_concat]
            exact Node.exists_dir_of_isPrefix hdir ⟨[], by rw [hplace, List.append_nil]⟩
        rw [hes] at hfile
        cases hfile
      split at h
      · cases h
      split at h
      · cases h
      split at h
      · split at h
        · cases h
        · cases h
      · rename_i target hfound
        cases (hroot.get? hdir).find? hfound
      · exact hgo _ h fun _ ↦ List.getLast?_concat
    · cases h

section

variable {d : Disk} (hd : d.root.IsLinkFree)

include hd

theorem route_redacted (purpose : Purpose) (path : String) :
    d.redacted.route purpose path = (d.route purpose path).map Landing.redact := by
  rw [route, route]
  split
  · rfl
  split
  · rfl
  exact follow_redact hd

theorem seek_redacted (path : String) :
    d.redacted.seek path =
      (d.seek path).map fun found ↦ (found.1, found.2.redact (found.1.getLastD "")) := by
  rw [seek, seek, route_redacted hd]
  cases d.route .target path with
  | error e => rfl
  | ok l =>
    cases l with
    | entry place node => rfl
    | vacant directory name => rfl

theorem lookup_redacted (path : String) :
    d.redacted.lookup path =
      (d.lookup path).map fun found ↦ (found.1, found.2.redact (found.1.getLastD "")) := by
  rw [lookup_eq, lookup_eq, seek_redacted hd]
  split
  · rfl
  · rfl

/-! ## The observers -/

theorem present_redacted (path : String) : d.redacted.present path = d.present path := by
  rw [present, present, lookup_redacted hd]
  cases d.lookup path with
  | error e => rfl
  | ok found => rfl

theorem isFile_redacted (path : String) : d.redacted.isFile path = d.isFile path := by
  rw [isFile, isFile, lookup_redacted hd]
  cases d.lookup path with
  | error e => rfl
  | ok found => exact Node.isFile_redact _ _

theorem reaches_redacted (path : String) : d.redacted.reaches path = d.reaches path := by
  rw [reaches, reaches, seek_redacted hd]
  cases d.seek path with
  | error e => rfl
  | ok found => rfl

theorem reachesFile_redacted (path : String) :
    d.redacted.reachesFile path = d.reachesFile path := by
  rw [reachesFile, reachesFile, seek_redacted hd]
  cases d.seek path with
  | error e => rfl
  | ok found => exact Node.isFile_redact _ _

/-- Only a foreign path leads to a foreign file. -/
theorem isForeign_of_seek {path : String} {place : Place} {content : ByteArray} {modified : Int}
    (h : d.seek path = .ok (place, .file content modified)) :
    isForeign (place.getLastD "") = isForeign path := by
  obtain ⟨-, hfollow⟩ := seek_eq_ok_iff.1 h
  have hlast := getLast?_of_follow hd (Path.segments_ne_nil path) hfollow
  obtain ⟨n, hn⟩ := List.getLast?_isSome.2 (Path.segments_ne_nil path) |> Option.isSome_iff_exists.1
  rw [Path.isForeign_of_getLast? hn, List.getLastD_eq_getLast?, hlast, hn, Option.getD_some]

/-- **Every other file is left as it is.** -/
theorem fetch_redacted {path : String} (h : isForeign path = false) :
    d.redacted.fetch path = d.fetch path := by
  rw [fetch, fetch, seek_redacted hd]
  cases hseek : d.seek path with
  | error e => rfl
  | ok found =>
    obtain ⟨place, node⟩ := found
    cases node with
    | link target => rfl
    | dir entries => rfl
    | file content modified =>
      have hname := (isForeign_of_seek hd hseek).trans h
      have hredact : (Node.file content modified).redact (place.getLastD "") =
          .file content modified := by
        rw [Node.redact, hname]
        rfl
      rw [Except.map, hredact]

theorem read_redacted {path : String} (h : isForeign path = false) :
    d.redacted.read path = d.read path := by
  rw [read_eq, read_eq, fetch_redacted hd h]

end

/-! ## Walking a directory -/

section

variable {load : String → Ignore.Frame}

mutual

/-- A walk does not look into files. -/
theorem walk_redact (scope : Ignore.Scope) (path name : String) (node : Node) :
    walk load scope path (node.redact name) = walk load scope path node := by
  cases node with
  | file content modified =>
    obtain ⟨content', modified', h⟩ := Node.redact_file name content modified
    rw [h, walk, walk]
  | link target => rw [Node.redact]
  | dir entries =>
    rw [Node.redact_dir, walk, walk]
    split
    · rfl
    · exact walkEntries_redactEntries _ _ entries

theorem walkEntries_redactEntries (scope : Ignore.Scope) (path : String)
    (entries : List (String × Node)) :
    walkEntries load scope path (Node.redactEntries entries) =
      walkEntries load scope path entries := by
  cases entries with
  | nil => rw [Node.redactEntries]
  | cons e rest =>
    obtain ⟨name, node⟩ := e
    rw [Node.redactEntries, walkEntries, walkEntries, walk_redact, walkEntries_redactEntries,
      isPassedOver, isPassedOver, Node.isDir_redact]

end

end

/-- What does not end like the name of a foreign file is none. -/
theorem isForeign_join_eq_false (p : String) {n : String} {c : Char}
    (hc : n.toList.getLast? = some c) (h : c ≠ 'n') : isForeign (Path.join p n) = false := by
  have hlast : (Path.join p n).toList.getLast? = some c := by
    rw [Path.join]
    split
    · exact hc
    · split
      · rw [String.toList_append, List.getLast?_append, hc, Option.some_or]
      · rw [String.toList_append, List.getLast?_append, hc, Option.some_or]
  rw [Bool.eq_false_iff]
  intro hforeign
  obtain ⟨l, hl⟩ := List.isSuffixOf_iff_suffix.1 hforeign
  rw [← hl, List.getLast?_append] at hlast
  exact h (Option.some.inj hlast).symm

section

variable {d : Disk} (hd : d.root.IsLinkFree)

include hd

theorem loadFile_redacted {path : String} (h : isForeign path = false) :
    Ignore.File.load d.redacted path = Ignore.File.load d path := by
  rw [Ignore.File.load, Ignore.File.load, fetch_redacted hd h]

theorem firstLine_redacted {path : String} (h : isForeign path = false) :
    Ignore.firstLine d.redacted path = Ignore.firstLine d path := by
  rw [Ignore.firstLine, Ignore.firstLine, fetch_redacted hd h]

theorem sharedDirectory_redacted (dir : String) :
    Ignore.sharedDirectory d.redacted dir = Ignore.sharedDirectory d dir := by
  have hgit : isForeign (Path.join dir ".git") = false :=
    isForeign_join_eq_false dir (c := 't') rfl (by decide)
  have hcommon : ∀ named, Ignore.firstLine d.redacted (Path.join named "commondir") =
      Ignore.firstLine d (Path.join named "commondir") := fun named ↦
    firstLine_redacted hd (isForeign_join_eq_false named (c := 'r') rfl (by decide))
  simp only [Ignore.sharedDirectory, reachesFile_redacted hd, firstLine_redacted hd hgit, hcommon]

theorem load_redacted (dir : String) :
    Ignore.Frame.load d.redacted dir = Ignore.Frame.load d dir := by
  have hignore := loadFile_redacted hd
    (isForeign_join_eq_false dir (n := ".ignore") (c := 'e') rfl (by decide))
  have hgitignore := loadFile_redacted hd
    (isForeign_join_eq_false dir (n := ".gitignore") (c := 'e') rfl (by decide))
  have hexclude : ∀ shared, Ignore.File.load d.redacted (Path.join shared "info/exclude") =
      Ignore.File.load d (Path.join shared "info/exclude") := fun shared ↦
    loadFile_redacted hd (isForeign_join_eq_false shared (c := 'e') rfl (by decide))
  simp only [Ignore.Frame.load, hignore, hgitignore, sharedDirectory_redacted hd, hexclude,
    reaches_redacted hd]

/-- **A walk finds the same files.** -/
theorem filesUnder_redacted (root : String) : d.redacted.filesUnder root = d.filesUnder root := by
  have hload : Ignore.Frame.load d.redacted = Ignore.Frame.load d := funext (load_redacted hd)
  have haround : ∀ place, Ignore.Scope.around d.redacted root place =
      Ignore.Scope.around d root place := by
    intro place
    rw [Ignore.Scope.around, Ignore.levelsAbove, hload]
    rfl
  rw [filesUnder, filesUnder, lookup_redacted hd]
  split
  · rfl
  cases d.lookup root with
  | error e => rfl
  | ok found =>
    obtain ⟨place, node⟩ := found
    simp only [Except.map, bind, Except.bind, hload, haround, walk_redact, Node.isDir_redact]

end

end Disk

end HostOverlay
