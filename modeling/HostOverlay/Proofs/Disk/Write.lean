import HostOverlay.Disk.Edit
import HostOverlay.Proofs.Disk.Course
import HostOverlay.Proofs.Host.Request

/-!
# What a write changes

Writing puts a file at the place that a path leads to, through links, or at a free place at the end
of it.  Nothing else changes, and afterwards the same path leads there again: following it looks at
the kinds of the entries on its way and at the targets of links, and these are as they were at all
places but that one.

* `Node.IsPut`, `Node.isPut_put`: a tree with a file put at a place, as it is seen place by place.
* `Leads.put`: the same course in the changed tree.
* `run_write_cases`: what becomes of the disk when a file is written, or cannot be.
* `lookup_putAt`: the path leads to the new file.
-/

set_option autoImplicit false

namespace HostOverlay

namespace Node

/-- What following a path sees of an entry. -/
inductive Shape where
  | file
  | link (target : String)
  | dir
  deriving DecidableEq, Repr

/-- The shape of an entry. -/
def shape : Node → Shape
  | .file .. => .file
  | .link target => .link target
  | .dir _ => .dir

theorem exists_of_shape_eq_dir {node : Node} (h : node.shape = .dir) :
    ∃ entries, node = .dir entries := by
  cases node with
  | file content modified => cases h
  | link target => cases h
  | dir entries => exact ⟨entries, rfl⟩

theorem exists_of_shape_eq_file {node : Node} (h : node.shape = .file) :
    ∃ content modified, node = .file content modified := by
  cases node with
  | file content modified => exact ⟨content, modified, rfl⟩
  | link target => cases h
  | dir entries => cases h

theorem isDir_eq_false_of_shape {node : Node} (h : node.shape = .file) : node.isDir = false := by
  obtain ⟨content, modified, rfl⟩ := exists_of_shape_eq_file h
  rfl

theorem eq_link_of_shape_eq {node : Node} {target : String} (h : node.shape = .link target) :
    node = .link target := by
  cases node with
  | file content modified => cases h
  | link target' => rw [Shape.link.inj h]
  | dir entries => cases h

/-- The entry by itself: a directory without what is in it. -/
def shallow : Node → Node
  | .dir _ => .emptyDir
  | node => node

theorem map_shallow_eq_file_iff {x : Option Node} {content : ByteArray} {modified : Int} :
    x.map shallow = some (.file content modified) ↔ x = some (.file content modified) := by
  rcases x with _ | (_ | _ | _) <;> simp [shallow, emptyDir]

theorem shape_eq_of_shallow_eq {node node' : Node} (h : node'.shallow = node.shallow) :
    node'.shape = node.shape := by
  have hshape : ∀ n : Node, n.shallow.shape = n.shape := by
    intro n
    cases n <;> rfl
  rw [← hshape, h, hshape]

/-- A place that a file can be put at: there are directories on the way to it, and nothing but a
file is there. -/
structure IsOpenAt (root : Node) (place : Place) : Prop where
  shape_eq : ∀ node, root.get? place = some node → node.shape = .file
  parents : ∀ ms n, ms ++ [n] <+: place → ∃ entries, root.get? ms = some (.dir entries)

/-- One step of the way to the place. -/
theorem IsOpenAt.of_cons {root : Node} {name : String} {rest : Place}
    (h : root.IsOpenAt (name :: rest)) :
    ∃ entries, root = .dir entries ∧
      match find? name entries with
      | some child => child.IsOpenAt rest
      | none => rest = [] := by
  obtain ⟨entries, hroot⟩ := h.parents [] name ⟨rest, rfl⟩
  obtain rfl := Option.some.inj hroot
  refine ⟨entries, rfl, ?_⟩
  cases hfind : find? name entries with
  | some child =>
    have hget : ∀ ns, (Node.dir entries).get? (name :: ns) = child.get? ns := by
      intro ns
      rw [get?_cons_dir, hfind, Option.bind_some]
    refine ⟨fun node hnode ↦ h.shape_eq node (by rw [hget, hnode]), fun ms n hms ↦ ?_⟩
    obtain ⟨es, hes⟩ := h.parents (name :: ms) n (List.cons_prefix_cons.2 ⟨rfl, hms⟩)
    exact ⟨es, by rw [← hget, hes]⟩
  | none =>
    rcases rest with _ | ⟨m, rest⟩
    · rfl
    · obtain ⟨es, hes⟩ := h.parents [name] m ⟨rest, rfl⟩
      rw [get?_cons_dir, hfind] at hes
      cases hes

/-- **Putting a file at a place leaves everything else.** -/
theorem shallow_get?_put {content : ByteArray} {modified : Int} {place : Place} :
    ∀ {root : Node}, root.IsOpenAt place → ∀ {p : Place}, p ≠ place →
      ((put (.file content modified) place root).get? p).map shallow =
        (root.get? p).map shallow := by
  induction place with
  | nil =>
    intro root h p hp
    obtain ⟨content', modified', rfl⟩ := exists_of_shape_eq_file (h.shape_eq root rfl)
    obtain ⟨n, ns, rfl⟩ := List.exists_cons_of_ne_nil hp
    rfl
  | cons name rest ih =>
    intro root h p hp
    obtain ⟨entries, rfl, hchild⟩ := h.of_cons
    rcases p with _ | ⟨n, ns⟩
    · rfl
    rw [put, get?_cons_dir, get?_cons_dir]
    by_cases hn : n = name
    · subst hn
      have hns : ns ≠ rest := fun heq ↦ hp (by rw [heq])
      rw [find?_setEntry_self, Option.bind_some]
      cases hfind : find? n entries with
      | some child =>
        rw [hfind] at hchild
        exact ih hchild hns
      | none =>
        rw [hfind] at hchild
        obtain rfl : rest = [] := hchild
        obtain ⟨m, ms, rfl⟩ := List.exists_cons_of_ne_nil hns
        rfl
    · rw [find?_setEntry_of_ne hn]

/-- The second tree is the first with the file `new` at the place `q`, and else as it was. -/
structure IsPut (root : Node) (q : Place) (new root' : Node) : Prop where
  isOpenAt : root.IsOpenAt q
  shape_new : new.shape = .file
  get_self : root'.get? q = some new
  get_other : ∀ p, p ≠ q → (root'.get? p).map shallow = (root.get? p).map shallow

theorem isPut_put {root : Node} {q : Place} (h : root.IsOpenAt q) (content : ByteArray)
    (modified : Int) :
    root.IsPut q (.file content modified) (put (.file content modified) q root) :=
  ⟨h, rfl, get?_put_self _ _ _, fun _ ↦ shallow_get?_put h⟩

namespace IsPut

variable {root root' new : Node} {q : Place} (h : root.IsPut q new root')

include h

theorem map_shape {p : Place} (hp : p ≠ q) :
    (root'.get? p).map shape = (root.get? p).map shape := by
  have hother := h.get_other p hp
  cases hget : root.get? p with
  | none =>
    rw [hget, Option.map_none, Option.map_eq_none_iff] at hother
    rw [hother]
  | some node =>
    rw [hget] at hother
    obtain ⟨node', hget', hsame⟩ := Option.map_eq_some_iff.1 hother
    rw [hget', Option.map_some, Option.map_some, shape_eq_of_shallow_eq hsame]

/-- A directory stays one. -/
theorem exists_dir {p : Place} {entries : List (String × Node)}
    (hp : root.get? p = some (.dir entries)) : ∃ es, root'.get? p = some (.dir es) := by
  have hne : p ≠ q := by
    rintro rfl
    cases h.isOpenAt.shape_eq _ hp
  have hshape := h.map_shape hne
  rw [hp] at hshape
  obtain ⟨node, hnode, hdir⟩ := Option.map_eq_some_iff.1 hshape
  obtain ⟨es, rfl⟩ := exists_of_shape_eq_dir hdir
  exact ⟨es, hnode⟩

/-- There are no new directories. -/
theorem exists_dir_of_new {p : Place} {entries : List (String × Node)}
    (hp : root'.get? p = some (.dir entries)) : ∃ es, root.get? p = some (.dir es) := by
  have hne : p ≠ q := by
    rintro rfl
    rw [h.get_self] at hp
    cases Option.some.inj hp ▸ h.shape_new
  have hshape := h.map_shape hne
  rw [hp] at hshape
  obtain ⟨node, hnode, hdir⟩ := Option.map_eq_some_iff.1 hshape.symm
  obtain ⟨es, rfl⟩ := exists_of_shape_eq_dir hdir
  exact ⟨es, hnode⟩

end IsPut

theorem setEntry_setEntry (name : String) (old new : Node) (entries : List (String × Node)) :
    setEntry name new (setEntry name old entries) = setEntry name new entries := by
  induction entries with
  | nil => simp [setEntry]
  | cons e rest ih =>
    by_cases he : e.1 = name
    · simp [setEntry, he]
    · simp [setEntry, he, ih]

theorem put_put (old new : Node) (place : Place) (root : Node) :
    put new place (put old place root) = put new place root := by
  induction place generalizing root with
  | nil => rfl
  | cons name rest ih =>
    have hone : ∀ node : Node, put new (name :: rest) (.dir [(name, put old rest node)]) =
        .dir [(name, put new rest node)] := by
      intro node
      simp [put, find?, setEntry, ih]
    cases root with
    | file content modified => exact hone emptyDir
    | link target => exact hone emptyDir
    | dir entries => simp [put, setEntry_setEntry, ih]

end Node

namespace Disk

/-- What is put at a place is in place of what was put there before. -/
theorem putAt_putAt (d : Disk) (place : Place) (old new : Node) :
    (d.putAt place old).putAt place new = d.putAt place new := by
  rw [putAt, putAt, putAt, Node.put_put]

/-- The place of a landing, whether something is there or not. -/
def Landing.place : Landing → Place
  | .entry place _ => place
  | .vacant directory name => directory ++ [name]

/-! ## The same course in the changed tree -/

section

variable {root root' new : Node} {q : Place} (hput : root.IsPut q new root')

include hput

/-- One step by name leads on in the changed tree. -/
theorem Leads.name_put {purpose : Purpose} {n : Nat} {place : Place} {s : String}
    {rest : List String} {l : Landing} {entries : List (String × Node)}
    (get : root'.get? place = some (.dir entries)) (isStep : IsStep purpose s rest) {child : Node}
    (hchild : (root.get? (place ++ [s])).map Node.shape = some child.shape)
    (ne_link : ∀ target, child ≠ .link target)
    (next : Leads root' .target n (place ++ [s]) rest l) :
    Leads root' .target n place (s :: rest) l := by
  obtain ⟨child', hfind, hnolink⟩ : ∃ child', Node.find? s entries = some child' ∧
      ∀ target, child' ≠ .link target := by
    rw [← Node.get?_concat get s]
    by_cases hq : place ++ [s] = q
    · rw [hq]
      refine ⟨new, hput.get_self, fun target htarget ↦ ?_⟩
      rw [htarget] at hput
      cases hput.shape_new
    · rw [← hput.map_shape hq] at hchild
      obtain ⟨child', hget, hshape⟩ := Option.map_eq_some_iff.1 hchild
      refine ⟨child', hget, fun target htarget ↦ ?_⟩
      rw [htarget] at hshape
      exact ne_link target (Node.eq_link_of_shape_eq hshape.symm)
  exact .name get ⟨isStep.isStay, isStep.ne_up, by simp, isStep.size_le⟩ hfind hnolink next

/-- **What led to an entry leads there still**, and what led to the free place leads to the new file
if it was a way to write to. -/
theorem Leads.put {purpose : Purpose} (hpurpose : purpose ≠ .entry) {n : Nat} {place : Place}
    {ss : List String} {l : Landing} (h : Leads root purpose n place ss l) :
    (∀ directory name, l = .vacant directory name → directory ++ [name] = q ∧
      purpose = .writing) →
    ∃ node, Leads root' .target n place ss (.entry l.place node) := by
  induction h with
  | @here n place node get =>
    intro _
    by_cases hq : place = q
    · exact ⟨new, .here (hq ▸ hput.get_self)⟩
    · have hshape := hput.map_shape hq
      rw [get] at hshape
      obtain ⟨node', hget, -⟩ := Option.map_eq_some_iff.1 hshape
      exact ⟨node', .here hget⟩
  | stay get isStay next ih =>
    intro hl
    obtain ⟨es, hdir⟩ := hput.exists_dir get
    obtain ⟨node, hnext⟩ := ih hl
    exact ⟨node, .stay hdir isStay hnext⟩
  | up get next ih =>
    intro hl
    obtain ⟨es, hdir⟩ := hput.exists_dir get
    obtain ⟨node, hnext⟩ := ih hl
    exact ⟨node, .up hdir hnext⟩
  | @vacant n place s rest entries get isStep find slashes =>
    intro hl
    obtain ⟨hq, rfl⟩ := hl place s rfl
    obtain ⟨es, hdir⟩ := hput.exists_dir get
    -- a way to write to has nothing behind the name
    obtain rfl : rest = [] := by
      by_contra hrest
      exact isStep.not_slashes ⟨rfl, by simpa [onlySlashes, hrest] using slashes⟩
    have hfind : Node.find? s es = some new := by
      rw [← Node.get?_concat hdir s, hq, hput.get_self]
    refine ⟨new, .name hdir ⟨isStep.isStay, isStep.ne_up, by simp, isStep.size_le⟩ hfind ?_ ?_⟩
    · intro target htarget
      rw [htarget] at hput
      cases hput.shape_new
    · exact .here (hq ▸ hput.get_self)
  | itself get isStep find isEntry => exact absurd isEntry hpurpose
  | @link n place s target rest l entries get isStep find not_itself next ih =>
    intro hl
    obtain ⟨es, hdir⟩ := hput.exists_dir get
    obtain ⟨node, hnext⟩ := ih hl
    have hlink : root.get? (place ++ [s]) = some (.link target) :=
      (Node.get?_concat get s).trans find
    have hq : place ++ [s] ≠ q := by
      rintro rfl
      cases hput.isOpenAt.shape_eq _ hlink
    have hshape := hput.map_shape hq
    rw [hlink, Node.get?_concat hdir s] at hshape
    obtain ⟨child, hfind, hshape⟩ := Option.map_eq_some_iff.1 hshape
    obtain rfl := Node.eq_link_of_shape_eq hshape
    exact ⟨node, .link hdir ⟨isStep.isStay, isStep.ne_up, by simp, isStep.size_le⟩ hfind
      (by simp) hnext⟩
  | @name n place s rest l child entries get isStep find ne_link next ih =>
    intro hl
    obtain ⟨es, hdir⟩ := hput.exists_dir get
    obtain ⟨node, hnext⟩ := ih hl
    refine ⟨node, Leads.name_put hput hdir isStep ?_ ne_link hnext⟩
    rw [Node.get?_concat get s, find, Option.map_some]

end

/-- A landing in a tree that a file can be written to. -/
theorem Landing.IsIn.isOpenAt {root : Node} {l : Landing} (h : l.IsIn root)
    (hfile : ∀ place node, l = .entry place node → node.shape = .file) :
    root.IsOpenAt l.place := by
  cases l with
  | entry place node =>
    have hget : root.get? place = some node := h
    refine ⟨fun node' hnode' ↦ ?_, fun ms n hms ↦ Node.exists_dir_of_isPrefix hget hms⟩
    obtain rfl := Option.some.inj (hget.symm.trans hnode')
    exact hfile place node rfl
  | vacant directory name =>
    obtain ⟨entries, hdir, hnone⟩ := h
    refine ⟨fun node hnode ↦ ?_, fun ms n hms ↦ ?_⟩
    · have hget : root.get? (directory ++ [name]) = some node := hnode
      rw [Node.get?_concat hdir, hnone] at hget
      cases hget
    · rcases List.prefix_concat_iff.1 hms with heq | hms
      · obtain ⟨rfl, -⟩ := List.append_inj' heq rfl
        exact ⟨entries, hdir⟩
      · exact Node.exists_dir_of_isPrefix hdir hms

/-! ## Writing -/

section

variable {d : Disk} {path : String}

/-- Where there is a file, or a free name for one, opening it empties it. -/
theorem run_openToWrite_of_locate {l : Landing} (hlocate : d.locate .writing path = .ok l)
    (hopen : d.root.IsOpenAt l.place) :
    (openToWrite path).run d = (.ok l.place, d.putAt l.place (.file .empty 0)) := by
  rw [openToWrite, run_get_bind, hlocate]
  cases l with
  | vacant directory name => rfl
  | entry place node =>
    obtain ⟨content, modified, rfl⟩ :=
      Node.exists_of_shape_eq_file (hopen.shape_eq node (Landing.isIn_locate hlocate))
    rfl

/-- **Opening a file to write to it** fails and changes nothing, or empties the file that the path
leads to. -/
theorem run_openToWrite_cases (d : Disk) (path : String) :
    (∃ e, (openToWrite path).run d = (.error e, d)) ∨
      ∃ l, d.locate .writing path = .ok l ∧ d.root.IsOpenAt l.place := by
  rcases hlocate : d.locate .writing path with e | l
  · refine .inl ⟨e, ?_⟩
    rw [openToWrite, run_get_bind, hlocate]
    rfl
  · have hin := Landing.isIn_locate hlocate
    rcases l with ⟨place, _ | target | entries⟩ | ⟨directory, name⟩
    · exact .inr ⟨_, rfl, hin.isOpenAt fun _ _ h ↦ (Landing.entry.inj h).2 ▸ rfl⟩
    · refine .inl ⟨.notFound, ?_⟩
      rw [openToWrite, run_get_bind, hlocate]
      rfl
    · refine .inl ⟨.isDirectory, ?_⟩
      rw [openToWrite, run_get_bind, hlocate]
      rfl
    · exact .inr ⟨_, rfl, hin.isOpenAt (by simp)⟩

/-- Where there is a file, or a free name for one, the content is put into it. -/
theorem run_write_of_locate {l : Landing} (hlocate : d.locate .writing path = .ok l)
    (hopen : d.root.IsOpenAt l.place) (content : ByteArray) :
    (write path content).run d = (.ok (), d.putAt l.place (.file content 0)) := by
  rw [write, run_bind_of_ok _ (run_openToWrite_of_locate hlocate hopen)]
  exact congrArg (Prod.mk _) (putAt_putAt _ _ _ _)

/-- **A write fails and leaves the disk as it was, or succeeds**: then the path led to a file or to
a free place, and the file is there now. -/
theorem run_write_cases (d : Disk) (path : String) (content : ByteArray) :
    (∃ e, (write path content).run d = (.error e, d)) ∨
      ∃ l, d.locate .writing path = .ok l ∧ d.root.IsOpenAt l.place ∧
        (write path content).run d = (.ok (), d.putAt l.place (.file content 0)) := by
  rcases run_openToWrite_cases d path with ⟨e, hopen⟩ | ⟨l, hlocate, hopen⟩
  · refine .inl ⟨e, ?_⟩
    rw [write, run_bind_of_error _ hopen]
  · exact .inr ⟨l, hlocate, hopen, run_write_of_locate hlocate hopen content⟩

end

/-- Where a file was written to, the path leads now. -/
theorem lookup_putAt {d : Disk} {path : String} {l : Landing}
    (hlocate : d.locate .writing path = .ok l) (hopen : d.root.IsOpenAt l.place)
    (content : ByteArray) (modified : Int) :
    (d.putAt l.place (.file content modified)).lookup path =
      .ok (l.place, .file content modified) := by
  obtain ⟨hpath, hleads⟩ := locate_eq_ok_iff_leads.1 hlocate
  have hput := Node.isPut_put hopen content modified
  obtain ⟨node, hnew⟩ := hleads.put hput (by simp) fun directory name hl ↦ ⟨by rw [hl]; rfl, rfl⟩
  obtain rfl := Option.some.inj (hput.get_self.symm.trans hnew.isIn)
  exact lookup_eq_ok_iff_leads.2 ⟨hpath, hnew⟩

end Disk

end HostOverlay
