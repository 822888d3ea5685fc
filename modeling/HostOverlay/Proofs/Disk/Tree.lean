import HostOverlay.Disk.Walk
import HostOverlay.Proofs.Path.Canonical

/-!
# What following and walking find in a tree

A tree is **proper** when every entry has a name that a path can spell.  Trees on a disk are, and
below an entry of a proper tree everything is proper again.

* `Landing.isIn_locate`: where following a path ends, there is an entry, and it is the one that is
  reported.
* `mem_walk`: what a walk finds has the path that the walk began at, with names joined to it.
* `mem_filesUnder`: both together, for the files under a path.
-/

set_option autoImplicit false

namespace HostOverlay

/-! ## Proper trees -/

/-- Every entry in and below the node has a proper name. -/
inductive Node.IsProper : Node → Prop
  | file (content : ByteArray) (modified : Int) : IsProper (.file content modified)
  | link (target : String) : IsProper (.link target)
  | dir {entries : List (String × Node)} (names : ∀ e ∈ entries, Path.IsName e.1)
      (nodes : ∀ e ∈ entries, IsProper e.2) : IsProper (.dir entries)

/-- The tree is proper, and the working directory is spelt as a system spells it. -/
structure Disk.IsProper (d : Disk) : Prop where
  root : d.root.IsProper
  workingDirectory : Path.IsCanonical d.workingDirectory

namespace Node

theorem mem_of_find? {name : String} {entries : List (String × Node)} {node : Node}
    (h : find? name entries = some node) : (name, node) ∈ entries := by
  induction entries with
  | nil => cases h
  | cons e rest ih =>
    rw [find?] at h
    split at h
    · rename_i hname
      obtain rfl := Option.some.inj h
      exact hname ▸ List.mem_cons_self
    · exact List.mem_cons_of_mem _ (ih h)

theorem IsProper.child? {node child : Node} (h : node.IsProper) {name : String}
    (hchild : node.child? name = some child) : child.IsProper := by
  cases h with
  | file content modified => cases hchild
  | link target => cases hchild
  | dir names nodes => exact nodes _ (mem_of_find? hchild)

/-- What lies below a proper node is proper. -/
theorem IsProper.get? {place : Place} : ∀ {node child : Node}, node.IsProper →
    node.get? place = some child → child.IsProper := by
  induction place with
  | nil =>
    intro node child h hget
    obtain rfl := Option.some.inj hget
    exact h
  | cons name rest ih =>
    intro node child h hget
    rw [Node.get?] at hget
    split at hget
    · rename_i next hnext
      exact ih (h.child? hnext) hget
    · cases hget

/-- A place below a place. -/
theorem get?_append (xs ys : Place) : ∀ node : Node,
    node.get? (xs ++ ys) = (node.get? xs).bind fun found ↦ found.get? ys := by
  induction xs with
  | nil => exact fun node ↦ rfl
  | cons x xs ih =>
    intro node
    rw [List.cons_append, get?, get?]
    cases node.child? x with
    | none => rfl
    | some child => exact ih child

/-- A place is one step further than the place it lies in. -/
theorem get?_concat {place : Place} : ∀ {node : Node} {entries : List (String × Node)},
    node.get? place = some (.dir entries) → ∀ (name : String),
    node.get? (place ++ [name]) = find? name entries := by
  induction place with
  | nil =>
    intro node entries h name
    obtain rfl := Option.some.inj h
    rw [List.nil_append, Node.get?, Node.child?]
    cases find? name entries with
    | none => rfl
    | some child => rfl
  | cons n rest ih =>
    intro node entries h name
    rw [Node.get?] at h
    rw [List.cons_append, Node.get?]
    split at h
    · exact ih h name
    · cases h

end Node

namespace Disk

/-! ## Where following a path ends -/

/-- The landing is one in the given tree: the entry is there, and the vacant name is not. -/
def Landing.IsIn (root : Node) : Landing → Prop
  | .entry place node => root.get? place = some node
  | .vacant directory name =>
    ∃ entries, root.get? directory = some (.dir entries) ∧ Node.find? name entries = none

theorem Landing.isIn_follow {root : Node} {purpose : Purpose}
    {onLink : Place → List String → Except IoError Landing}
    (hlink : ∀ place ss l, onLink place ss = .ok l → l.IsIn root) {ss : List String} :
    ∀ {place : Place} {l : Landing}, follow root purpose onLink place ss = .ok l → l.IsIn root := by
  induction ss with
  | nil =>
    intro place l h
    rw [follow] at h
    split at h
    · rename_i node hnode
      obtain rfl := Except.ok.inj h
      exact hnode
    · cases h
  | cons s rest ih =>
    intro place l h
    rw [follow] at h
    split at h
    · cases h
    · rename_i entries hdir
      split at h
      · exact ih h
      split at h
      · exact ih h
      split at h
      · cases h
      split at h
      · cases h
      split at h
      · -- the name is not there
        rename_i hnone
        split at h
        · obtain rfl := Except.ok.inj h
          exact ⟨entries, hdir, hnone⟩
        · cases h
      · -- it is a link
        rename_i target hfound
        split at h
        · obtain rfl := Except.ok.inj h
          exact (Node.get?_concat hdir s).trans hfound
        · exact hlink _ _ _ h
      · exact ih h
    · cases h

theorem Landing.isIn_followLinks {root : Node} {purpose : Purpose} (n : Nat) :
    ∀ (place : Place) (ss : List String) (l : Landing),
      followLinks root purpose n place ss = .ok l → l.IsIn root := by
  induction n with
  | zero => exact fun place ss l h ↦ isIn_follow (by simp) h
  | succ n ih => exact fun place ss l h ↦ isIn_follow ih h

/-- **Following a path ends in the tree.** -/
theorem Landing.isIn_route {d : Disk} {purpose : Purpose} {path : String} {l : Landing}
    (h : d.route purpose path = .ok l) : l.IsIn d.root := by
  rw [route] at h
  split at h
  · cases h
  split at h
  · cases h
  · exact isIn_followLinks _ _ _ _ h

/-- A path that can be followed as a text can be followed as it is written. -/
theorem route_of_locate {d : Disk} {purpose : Purpose} {path : String} {l : Landing}
    (h : d.locate purpose path = .ok l) : d.route purpose path = .ok l := by
  rw [locate] at h
  split at h
  · cases h
  · exact h

theorem Landing.isIn_locate {d : Disk} {purpose : Purpose} {path : String} {l : Landing}
    (h : d.locate purpose path = .ok l) : l.IsIn d.root :=
  isIn_route (route_of_locate h)

theorem get?_of_seek {d : Disk} {path : String} {place : Place} {node : Node}
    (h : d.seek path = .ok (place, node)) : d.root.get? place = some node := by
  rw [seek] at h
  cases hl : d.route .target path with
  | error e =>
    rw [hl] at h
    cases h
  | ok l =>
    rw [hl] at h
    cases l with
    | vacant directory name => cases h
    | entry place' node' =>
      obtain ⟨rfl, rfl⟩ : place' = place ∧ node' = node := by
        simpa [Bind.bind, Except.bind, Landing.reached] using h
      exact Landing.isIn_route hl

theorem seek_of_lookup {d : Disk} {path : String} {found : Place × Node}
    (h : d.lookup path = .ok found) : d.seek path = .ok found := by
  rw [lookup] at h
  cases hl : d.locate .target path with
  | error e =>
    rw [hl] at h
    cases h
  | ok l =>
    rw [hl] at h
    rw [seek, route_of_locate hl]
    exact h

theorem get?_of_lookup {d : Disk} {path : String} {place : Place} {node : Node}
    (h : d.lookup path = .ok (place, node)) : d.root.get? place = some node :=
  get?_of_seek (seek_of_lookup h)

/-! ## Walking -/

open Ignore (Frame Scope)

/-- What is found among entries is found in or below one of them that is not passed over. -/
theorem mem_walkEntries_iff {load : String → Frame} {scope : Scope} {path : String} {f : Finding}
    {entries : List (String × Node)} :
    f ∈ walkEntries load scope path entries ↔
      ∃ e ∈ entries, isPassedOver scope (Path.join path e.1) e.1 e.2 = false ∧
        f ∈ walk load scope (Path.join path e.1) e.2 := by
  induction entries with
  | nil => simp [walkEntries]
  | cons e rest ih =>
    simp only [walkEntries, List.mem_append, ih, List.mem_cons, or_and_right, exists_or,
      exists_eq_left]
    cases isPassedOver scope (Path.join path e.1) e.1 e.2 with
    | true => simp
    | false => simp

/-- **A walk finds paths that are spelt as the one it began at**, with names joined to it. -/
theorem mem_walk {node : Node} (hnode : node.IsProper) :
    ∀ {load : String → Frame} {scope : Scope} {path p : String},
      .file p ∈ walk load scope path node →
      ∃ ns : List String, (∀ n ∈ ns, Path.IsName n) ∧ p = ns.foldl Path.join path := by
  induction hnode with
  | file content modified =>
    intro load scope path p h
    rw [walk, List.mem_singleton, Finding.file.injEq] at h
    exact ⟨[], by simp, h⟩
  | link target =>
    intro load scope path p h
    rw [walk] at h
    cases h
  | dir names nodes ih =>
    intro load scope path p h
    rw [walk] at h
    split at h
    · simp at h
    · obtain ⟨e, he, -, h⟩ := mem_walkEntries_iff.1 h
      obtain ⟨ns, hns, rfl⟩ := ih e he h
      exact ⟨e.1 :: ns, List.forall_mem_cons.2 ⟨names e he, hns⟩, rfl⟩

/-- The files that were found, as a list of paths. -/
theorem mem_filterMap_file? {found : List Finding} {p : String} :
    p ∈ found.filterMap Finding.file? ↔ .file p ∈ found := by
  rw [List.mem_filterMap]
  constructor
  · rintro ⟨f, hf, h⟩
    cases f with
    | file path => exact Option.some.inj h ▸ hf
    | unlisted path => cases h
  · intro h
    exact ⟨_, h, rfl⟩

/-- The files under a path have that path in front of their names. -/
theorem mem_filesUnder {d : Disk} (hd : d.root.IsProper) {root p : String} {listing : Listing}
    (h : d.filesUnder root = .ok listing) (hp : p ∈ listing.files) :
    ∃ ns : List String, (∀ n ∈ ns, Path.IsName n) ∧ p = ns.foldl Path.join root := by
  rw [filesUnder] at h
  split at h
  · obtain rfl := Except.ok.inj h
    cases hp
  · cases hlookup : d.lookup root with
    | error e =>
      rw [hlookup] at h
      cases h
    | ok found =>
      rw [hlookup] at h
      obtain rfl := Except.ok.inj h
      exact mem_walk (hd.get? (get?_of_lookup hlookup)) (mem_filterMap_file?.1 hp)

end Disk

end HostOverlay
