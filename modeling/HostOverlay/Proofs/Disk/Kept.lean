import HostOverlay.Proofs.Disk.Walk
import Mathlib.Data.List.Infix

/-!
# What is kept on the way to a file

A walk judges every entry by the ignore files of the directories around it, and these are the
directories that the names on the way lead through.  So what a walk finds can be said with the names
alone: those names lead to a file of the walk that `IsWalked` holds of.

* `Ignore.Scope.within`: the scope of the entries of the directory that names lead to;
  `views_within` lists the ignore files around one of them.
* `mem_walk_iff`: a walk finds the files whose names are kept.
* `mem_files_iff_isWalked`: so for the files under a path.
-/

set_option autoImplicit false

namespace HostOverlay

namespace Ignore

/-- The scope of the entries of the directory that names lead to from the one at `path`. -/
def Scope.within (load : String → Frame) : Scope → String → List String → Scope
  | s, path, [] => s.enter path (load path)
  | s, path, n :: ns => (s.enter path (load path)).within load (Path.join path n) ns

/-- The level of the directory that names lead to. -/
def levelAt (load : String → Frame) (path : String) (ns : List String) : Level :=
  ⟨ns.foldl Path.join path, load (ns.foldl Path.join path)⟩

namespace Scope

variable {load : String → Frame}

theorem start_within (ns : List String) : ∀ (s : Scope) (path : String),
    (s.within load path ns).start = s.start := by
  induction ns with
  | nil => exact fun s path ↦ rfl
  | cons n ns ih => exact fun s path ↦ ih _ _

theorem base_within (ns : List String) : ∀ (s : Scope) (path : String),
    (s.within load path ns).base = s.base := by
  induction ns with
  | nil => exact fun s path ↦ rfl
  | cons n ns ih => exact fun s path ↦ ih _ _

theorem outer_within (ns : List String) : ∀ (s : Scope) (path : String),
    (s.within load path ns).outer = s.outer := by
  induction ns with
  | nil => exact fun s path ↦ rfl
  | cons n ns ih => exact fun s path ↦ ih _ _

/-- The excludes of the user are the same everywhere. -/
theorem userVerdict_within (p : String) (isDir : Bool) (ns : List String) :
    ∀ (s : Scope) (path : String),
      (s.within load path ns).userVerdict p isDir = s.userVerdict p isDir := by
  induction ns with
  | nil => exact fun s path ↦ rfl
  | cons n ns ih => exact fun s path ↦ ih _ _

/-- **The directories around an entry** are those that the names before it lead to, the last one
first. -/
theorem inner_within (ns : List String) : ∀ (s : Scope) (path : String),
    (s.within load path ns).inner = ns.inits.reverse.map (levelAt load path) ++ s.inner := by
  induction ns with
  | nil => exact fun s path ↦ rfl
  | cons n ns ih =>
    intro s path
    rw [within, ih, enter, List.inits_cons, List.reverse_cons, List.map_append, List.append_assoc,
      ← List.map_reverse, List.map_map]
    rfl

/-- The ignore files of the directory that names lead to, with the path that its rules see of the
entry at `p`. -/
def viewAt (load : String → Frame) (path p : String) (ns : List String) : Frame × String :=
  (load (ns.foldl Path.join path), below (ns.foldl Path.join path) (dropHere p))

/-- The ignore files above the start of the walk, with the paths that their rules see. -/
def outerViews (s : Scope) (p : String) : List (Frame × String) :=
  s.outer.map fun l ↦ (l.frame, below l.dir (s.absolute (dropHere p)))

/-- **The ignore files around an entry**: those of the directories that names lead through, and
those above the start. -/
theorem views_within {s : Scope} (hs : s.inner = []) (path p : String) (ns : List String) :
    (s.within load path ns).views p =
      ns.inits.reverse.map (viewAt load path p) ++ s.outerViews p := by
  have habsolute : ∀ q, (s.within load path ns).absolute q = s.absolute q := by
    intro q
    rw [absolute, absolute, start_within, base_within]
  rw [views, inner_within, hs, List.append_nil, outer_within, List.map_map, outerViews]
  simp only [habsolute]
  rfl

theorem outerViews_around (d : Disk) (start : String) (place : Place) (p : String) :
    (Scope.around d start place).outerViews p = (List.range place.length).reverse.map fun k ↦
      (Frame.load d (pathOf (place.take k)), below (pathOf (place.take k))
        ((Scope.around d start place).absolute (dropHere p))) := by
  rw [outerViews, around, levelsAbove, List.map_map]
  rfl

/-- What holds of the ignore files above the start of a walk. -/
theorem forall_mem_outerViews_around {d : Disk} {start : String} {place : Place} {p : String}
    {P : Frame → Prop} : (∀ v ∈ (Scope.around d start place).outerViews p, P v.1) ↔
      ∀ k < place.length, P (Frame.load d (pathOf (place.take k))) := by
  simp [outerViews_around]

theorem mem_tail_inits_iff {is ks : List String} : is ∈ ks.inits.tail ↔ is ≠ [] ∧ is <+: ks := by
  cases ks with
  | nil =>
    simp only [List.inits, List.tail_cons, List.not_mem_nil, List.prefix_nil, false_iff, not_and]
    exact id
  | cons k ks =>
    rw [List.inits_cons, List.tail_cons, List.mem_map]
    constructor
    · rintro ⟨ts, hts, rfl⟩
      exact ⟨List.cons_ne_nil _ _, List.cons_prefix_cons.2 ⟨rfl, (List.mem_inits _ _).1 hts⟩⟩
    · rintro ⟨hne, his⟩
      obtain ⟨i, ts, rfl⟩ := List.exists_cons_of_ne_nil hne
      obtain ⟨rfl, hts⟩ := List.cons_prefix_cons.1 his
      exact ⟨ts, (List.mem_inits _ _).2 hts, rfl⟩

/-- The directories around an entry that lies below the one that `ms` leads to: those that are
nearer, this one, and those above it. -/
theorem exists_inits_append (ms ks : List String) : ∃ nearer above,
    (ms ++ ks).inits.reverse = nearer ++ ms :: above ∧
      (∀ js, js ∈ nearer ↔ ∃ is, is ≠ [] ∧ is <+: ks ∧ js = ms ++ is) ∧
      ∀ js ∈ above, js <+: ms ∧ js ≠ ms := by
  obtain ⟨above, habove, hproper⟩ : ∃ above, ms.inits.reverse = ms :: above ∧
      ∀ js ∈ above, js <+: ms ∧ js ≠ ms := by
    clear ks
    induction ms with
    | nil => exact ⟨[], rfl, by simp⟩
    | cons m ms ih =>
      obtain ⟨above, habove, hproper⟩ := ih
      refine ⟨above.map (m :: ·) ++ [[]], ?_, fun js hjs ↦ ?_⟩
      · rw [List.inits_cons, List.reverse_cons, ← List.map_reverse, habove]
        rfl
      · rcases List.mem_append.1 hjs with hjs | hjs
        · obtain ⟨is, his, rfl⟩ := List.mem_map.1 hjs
          obtain ⟨hfront, hne⟩ := hproper is his
          exact ⟨List.cons_prefix_cons.2 ⟨rfl, hfront⟩, fun h ↦ hne (List.cons.inj h).2⟩
        · obtain rfl := List.mem_singleton.1 hjs
          exact ⟨List.nil_prefix, by simp⟩
  refine ⟨(ks.inits.tail.map (ms ++ ·)).reverse, above, ?_, fun js ↦ ?_, hproper⟩
  · rw [List.inits_append, List.reverse_append, habove]
  · simp only [List.mem_reverse, List.mem_map, mem_tail_inits_iff, and_assoc, eq_comm]

end Scope

end Ignore

namespace Disk

open Ignore (Frame Scope)

/-- Names that a walk from the directory at `path` does not pass over: none is a skipped name, and
none is left out by the ignore files around it.  All but the last one are names of directories. -/
def IsWalked (load : String → Frame) (scope : Scope) (path : String) (ns : List String) : Prop :=
  ∀ ms n rest, ns = ms ++ n :: rest → n ∉ skippedNames ∧
    (scope.within load path ms).leavesOut ((ms ++ [n]).foldl Path.join path) n (!rest.isEmpty) =
      false

section

variable {load : String → Frame}

theorem isWalked_nil (scope : Scope) (path : String) : IsWalked load scope path [] := by
  intro ms n rest h
  simp at h

/-- One more name in front. -/
theorem isWalked_cons_iff {scope : Scope} {path n : String} {ns : List String} :
    IsWalked load scope path (n :: ns) ↔
      (n ∉ skippedNames ∧ (scope.enter path (load path)).leavesOut (Path.join path n) n
        (!ns.isEmpty) = false) ∧
      IsWalked load (scope.enter path (load path)) (Path.join path n) ns := by
  constructor
  · intro h
    refine ⟨h [] n ns rfl, fun ms m rest heq ↦ ?_⟩
    exact h (n :: ms) m rest (by rw [heq, List.cons_append])
  · rintro ⟨hfirst, hrest⟩ (_ | ⟨m, ms⟩) k rest heq
    · obtain ⟨rfl, rfl⟩ := List.cons.inj heq
      exact hfirst
    · obtain ⟨rfl, rfl⟩ := List.cons.inj heq
      exact hrest ms k rest rfl

/-- An entry that names lead through is a directory, and the last one is the file. -/
theorem isDir_eq_not_isEmpty {path : String} {child : Node} {ns : List String}
    (h : LeadsToFile path child ns) : child.isDir = !ns.isEmpty := by
  obtain ⟨⟨content, modified, hget⟩, -⟩ := h
  cases ns with
  | nil =>
    obtain rfl := Option.some.inj hget
    rfl
  | cons n ns =>
    obtain ⟨entries, _, rfl, -, -⟩ := Node.exists_dir_of_get?_cons hget
    rfl

/-- Below a directory, the first name is that of one of its entries. -/
theorem leadsToFile_dir_iff {entries : List (String × Node)}
    (h : (Node.dir entries).IsRealizable) {path : String} {ns : List String} :
    LeadsToFile path (.dir entries) ns ↔ Path.size path ≤ maxPath ∧
      ∃ e ∈ entries, ∃ ms, ns = e.1 :: ms ∧ LeadsToFile (Path.join path e.1) e.2 ms := by
  obtain ⟨distinct, hentries⟩ := Node.isRealizable_dir_iff.1 h
  have hrel : ∀ {ns found}, (Node.dir entries).get? ns = some found →
      ∀ n ∈ ns, Path.isAbsolute n = false := fun hget n hn ↦
    Path.isAbsolute_of_no_slash (h.isEntryName hget n hn).isName.no_slash
  constructor
  · intro hfile
    obtain ⟨⟨content, modified, hget⟩, -⟩ := id hfile
    cases ns with
    | nil => cases hget
    | cons n ms =>
      obtain ⟨hsize, child, hchild, hrest⟩ := (leadsToFile_cons_iff (hrel hget)).1 hfile
      exact ⟨hsize, (n, child), Node.mem_of_find? hchild, ms, rfl, hrest⟩
  · rintro ⟨hsize, e, he, ms, rfl, hrest⟩
    obtain ⟨⟨content, modified, hget⟩, -⟩ := id hrest
    have hchild := Node.find?_of_mem distinct he
    have hget' : (Node.dir entries).get? (e.1 :: ms) = some (.file content modified) := by
      rw [Node.get?_cons_dir, hchild, Option.bind_some, hget]
    exact (leadsToFile_cons_iff (hrel hget')).2 ⟨hsize, e.2, hchild, hrest⟩

/-- **A walk finds the files whose names are kept.** -/
theorem mem_walk_iff {node : Node} (hnode : node.IsRealizable) :
    ∀ {scope : Scope} {path p : String}, .file p ∈ walk load scope path node ↔
      ∃ ns, LeadsToFile path node ns ∧ IsWalked load scope path ns ∧
        p = ns.foldl Path.join path := by
  induction hnode with
  | file content modified =>
    intro scope path p
    rw [walk, List.mem_singleton, Finding.file.injEq]
    constructor
    · rintro rfl
      exact ⟨[], ⟨⟨content, modified, rfl⟩, by simp⟩, isWalked_nil _ _, rfl⟩
    · rintro ⟨ns, ⟨⟨content', modified', hget⟩, -⟩, -, rfl⟩
      cases ns with
      | nil => rfl
      | cons n ns => cases hget
  | link target =>
    intro scope path p
    rw [walk]
    refine iff_of_false List.not_mem_nil ?_
    rintro ⟨ns, ⟨⟨content, modified, hget⟩, -⟩, -⟩
    cases ns with
    | nil => cases hget
    | cons n ns => cases hget
  | @dir entries distinct names nodes ih =>
    intro scope path p
    have hdir : (Node.dir entries).IsRealizable := .dir distinct names nodes
    rw [walk]
    split
    · rename_i hsize
      refine iff_of_false (by simp) ?_
      rintro ⟨ns, hfile, -⟩
      exact absurd ((leadsToFile_dir_iff hdir).1 hfile).1 (Nat.not_le.2 hsize)
    · rename_i hsize
      rw [mem_walkEntries_iff]
      constructor
      · rintro ⟨e, he, hkept, hwalk⟩
        obtain ⟨ms, hfile, hms, rfl⟩ := (ih e he).1 hwalk
        obtain ⟨hout, hskip⟩ := isPassedOver_eq_false_iff.1 hkept
        rw [isDir_eq_not_isEmpty hfile] at hout
        exact ⟨e.1 :: ms, (leadsToFile_dir_iff hdir).2 ⟨Nat.not_lt.1 hsize, e, he, ms, rfl, hfile⟩,
          isWalked_cons_iff.2 ⟨⟨hskip, hout⟩, hms⟩, rfl⟩
      · rintro ⟨ns, hfile, hns, rfl⟩
        obtain ⟨-, e, he, ms, rfl, hbelow⟩ := (leadsToFile_dir_iff hdir).1 hfile
        obtain ⟨⟨hskip, hout⟩, hms⟩ := isWalked_cons_iff.1 hns
        rw [← isDir_eq_not_isEmpty hbelow] at hout
        exact ⟨e, he, isPassedOver_eq_false_iff.2 ⟨hout, hskip⟩,
          (ih e he).2 ⟨ms, hbelow, hms, rfl⟩⟩

end

/-- **The files under a path** are those that names lead to which are kept. -/
theorem mem_files_iff_isWalked {d : Disk} (hd : d.root.IsRealizable) {root : String}
    {listing : Listing} (h : d.filesUnder root = .ok listing)
    (hroot : isStandardInput root = false) {place : Place} {node : Node}
    (hlookup : d.lookup root = .ok (place, node)) {p : String} :
    p ∈ listing.files ↔ ∃ ns, LeadsToFile root node ns ∧
      IsWalked (Frame.load d) (Scope.around d root place) root ns ∧
      p = ns.foldl Path.join root := by
  rw [mem_files_iff h hroot, hlookup]
  simp only [Except.ok.injEq, Prod.mk.injEq]
  constructor
  · rintro ⟨place', node', ⟨rfl, rfl⟩, hp⟩
    exact (mem_walk_iff (hd.get? (get?_of_lookup hlookup))).1 hp
  · intro hp
    exact ⟨place, node, ⟨rfl, rfl⟩, (mem_walk_iff (hd.get? (get?_of_lookup hlookup))).2 hp⟩

end Disk

end HostOverlay
