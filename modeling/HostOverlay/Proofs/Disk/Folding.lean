import HostOverlay.Proofs.Disk.Redaction
import HostOverlay.Proofs.Path.Kept

/-!
# Looking up a folded path

Folding a path takes a `..` and the name before it away without asking what is there.  On a disk
with links that can lead astray: the directory above the target of a link is not the one that the
link lies in.  Without links it cannot, and this file shows it: where a path leads somewhere, its
normal form leads to the same place.

The two are compared by where their moves go, as places, before anything is looked up.  One move is
`go`.  `go_push` says that taking one more step from a folded stack goes where the step goes, so
that a path and its normal form go to one place (`foldl_go_kept`).  Then it remains to see that
nothing is in the way of the normal form.  What it passes through lies above the place where it
starts or above the place where it ends, and whatever an entry lies below is a directory.

* `of_follow_eq_entry`: following segments without links ends where the moves go.
* `follow_ups`, `follow_names`: following a run of `..`, and following names.
* `isPath_normal`: a normal form is not longer than the path.
* `lookup_resolve` is the result.
-/

set_option autoImplicit false

namespace HostOverlay

namespace Path

/-! ## Characters of a normal form -/

theorem sublist_intercalate (sep : List Char) {xs ys : List (List Char)} (h : xs.Sublist ys) :
    (List.intercalate sep xs).Sublist (List.intercalate sep ys) := by
  induction h with
  | slnil => exact List.Sublist.refl _
  | @cons xs ys y h ih =>
    by_cases hys : ys = []
    · subst hys
      obtain rfl := List.sublist_nil.1 h
      exact List.nil_sublist _
    · rw [List.intercalate_cons_of_ne_nil hys]
      exact ih.trans (List.sublist_append_right _ _)
  | @cons_cons xs ys x h ih =>
    by_cases hys : ys = []
    · subst hys
      obtain rfl := List.sublist_nil.1 h
      exact List.Sublist.refl _
    · rw [List.intercalate_cons_of_ne_nil hys]
      by_cases hxs : xs = []
      · subst hxs
        have hone : List.intercalate sep [x] = x := by simp [List.intercalate]
        rw [hone, List.append_assoc]
        exact List.sublist_append_left _ _
      · rw [List.intercalate_cons_of_ne_nil hxs]
        exact ih.append_left _

theorem toList_joinSegments_sublist {ss ts : List String} (h : ss.Sublist ts) :
    (joinSegments ss).toList.Sublist (joinSegments ts).toList := by
  rw [joinSegments, joinSegments, String.toList_ofList, String.toList_ofList]
  exact sublist_intercalate _ (h.map _)

theorem toList_root_append (p : String) : ("/" ++ p).toList = '/' :: p.toList := by
  simp

/-- **Folding only leaves out**, but for the `.` that stands for nothing. -/
theorem toList_normal_sublist {p : String} (h : normal p ≠ ".") :
    (normal p).toList.Sublist p.toList := by
  have hsub := kept_sublist p
  rw [normal_eq_spell, spell] at h ⊢
  cases habs : isAbsolute p with
  | true =>
    obtain ⟨q, rfl⟩ := isAbsolute_iff.1 habs
    have hrest : (kept ("/" ++ q)).Sublist (segments q) := by
      rw [segments_root_append, List.sublist_cons_iff] at hsub
      rcases hsub with hsub | ⟨r, hr, -⟩
      · exact hsub
      · exact absurd rfl (isKept_of_mem_kept (hr ▸ List.mem_cons_self)).ne_empty
    have hjoin := toList_joinSegments_sublist hrest
    rw [joinSegments_segments] at hjoin
    rw [if_pos rfl, toList_root_append, toList_root_append]
    exact .cons_cons _ hjoin
  | false =>
    rw [habs, if_neg Bool.false_ne_true] at h
    rw [if_neg Bool.false_ne_true]
    split at h
    · exact absurd rfl h
    · rename_i hne
      have hjoin := toList_joinSegments_sublist hsub
      rw [joinSegments_segments] at hjoin
      rwa [if_neg hne]

end Path

/-! ## Places -/

/-- The place that a step leads to, if all the directories are there. -/
def Place.go (place : Place) : Path.Component → Place
  | .root => []
  | .current => place
  | .parent => place.dropLast
  | .name n => place ++ [n]

open HostOverlay.Path (Component IsName IsKept kept push folded origin moves steps segments normal
  spell)

namespace Place

theorem foldl_go_reverse_cons (start : Place) (c : Component) (stack : List Component) :
    (c :: stack).reverse.foldl go start = (stack.reverse.foldl go start).go c := by
  rw [List.reverse_cons, List.foldl_append]
  rfl

/-- **A step taken from a stack goes where the step goes.** -/
theorem foldl_go_push (start : Place) (stack : List Component) (c : Component) :
    (push stack c).reverse.foldl go start = (stack.reverse.foldl go start).go c := by
  cases c with
  | root => exact foldl_go_reverse_cons start .root stack
  | current => rfl
  | name n => exact foldl_go_reverse_cons start (.name n) stack
  | parent =>
    cases stack with
    | nil => rfl
    | cons top rest =>
      cases top with
      | name n =>
        -- the step takes back the name that the stack ends in
        rw [foldl_go_reverse_cons]
        exact List.dropLast_concat.symm
      | root =>
        -- above the root there is the root
        have hstay : push (.root :: rest) .parent = .root :: rest := rfl
        rw [hstay, foldl_go_reverse_cons]
        rfl
      | current => exact foldl_go_reverse_cons start .parent (.current :: rest)
      | parent => exact foldl_go_reverse_cons start .parent (.parent :: rest)

theorem foldl_go_foldl_push (start : Place) (cs : List Component) : ∀ stack : List Component,
    (cs.foldl push stack).reverse.foldl go start = cs.foldl go (stack.reverse.foldl go start) := by
  induction cs with
  | nil => exact fun stack ↦ rfl
  | cons c cs ih =>
    intro stack
    rw [List.foldl_cons, List.foldl_cons, ih, foldl_go_push]

/-- **A path and the segments that are kept of it go to one place.** -/
theorem foldl_go_kept (p : String) (start : Place) :
    ((kept p).map Component.ofSegment).foldl go ((origin p).foldl go start) =
      (moves p).foldl go ((origin p).foldl go start) := by
  have h := foldl_go_foldl_push start (moves p) (origin p)
  rw [← folded, Path.folded_eq, List.foldl_append] at h
  rw [h]
  have hrev : (origin p).reverse = origin p := by
    rw [origin]
    split <;> rfl
  rw [hrev]

/-- Names lead further down. -/
theorem foldl_go_names {ns : List String} (hns : ∀ n ∈ ns, IsName n) : ∀ place : Place,
    (ns.map Component.ofSegment).foldl go place = place ++ ns := by
  induction ns with
  | nil => exact fun place ↦ (List.append_nil place).symm
  | cons n ns ih =>
    intro place
    rw [List.forall_mem_cons] at hns
    have hstep : place.go (.name n) = place ++ [n] := rfl
    rw [List.map_cons, List.foldl_cons, hns.1.ofSegment, ih hns.2, hstep, List.append_assoc,
      List.singleton_append]

end Place

namespace Disk

/-! ## Following segments without links -/

section

variable {root : Node} {purpose : Purpose}
  {onLink : Place → List String → Except IoError Landing}

/-- Only a directory can be gone on from. -/
theorem exists_dir_of_follow {place : Place} {ss : List String} (hss : ss ≠ []) {l : Landing}
    (h : follow root purpose onLink place ss = .ok l) :
    ∃ entries, root.get? place = some (.dir entries) := by
  obtain ⟨s, rest, rfl⟩ := List.exists_cons_of_ne_nil hss
  rw [follow] at h
  split at h
  · cases h
  · rename_i entries hdir
    exact ⟨entries, hdir⟩
  · cases h

theorem follow_up {place : Place} {entries : List (String × Node)}
    (h : root.get? place = some (.dir entries)) (rest : List String) :
    follow root purpose onLink place (".." :: rest) =
      follow root purpose onLink place.dropLast rest := by
  rw [follow, h]
  rfl

/-- **Going up** from a directory leads to a directory. -/
theorem follow_ups (k : Nat) (rest : List String) : ∀ {place : Place}
    {entries : List (String × Node)}, root.get? place = some (.dir entries) →
      ∃ es, root.get? ((List.replicate k Component.parent).foldl Place.go place) = some (.dir es) ∧
        follow root purpose onLink place (List.replicate k ".." ++ rest) =
          follow root purpose onLink ((List.replicate k Component.parent).foldl Place.go place)
            rest := by
  induction k with
  | zero => exact fun {place entries} h ↦ ⟨entries, h, rfl⟩
  | succ k ih =>
    intro place entries h
    obtain ⟨es, hes⟩ := Node.exists_dir_dropLast h
    simp only [List.replicate_succ, List.cons_append, follow_up h]
    exact ih hes

end

section

variable {root : Node} (hroot : root.IsLinkFree)
  {onLink : Place → List String → Except IoError Landing}

include hroot

/-- **Where following segments ends**: where the moves go.  No name on the way was too long. -/
theorem of_follow_eq_entry {ss : List String} : ∀ {place q : Place} {node : Node},
    follow root .target onLink place ss = .ok (.entry q node) →
      q = (steps ss).foldl Place.go place ∧
        ∀ n ∈ ss, IsName n → Path.size n ≤ maxName := by
  induction ss with
  | nil =>
    intro place q node h
    rw [follow] at h
    split at h
    · obtain ⟨rfl, -⟩ := Landing.entry.inj (Except.ok.inj h)
      exact ⟨rfl, by simp⟩
    · cases h
  | cons s rest ih =>
    intro place q node h
    rw [follow] at h
    split at h
    · cases h
    · rename_i entries hdir
      split at h
      · rename_i hstay
        obtain ⟨hq, hnames⟩ := ih h
        rw [Path.steps_cons_stay hstay]
        refine ⟨hq, List.forall_mem_cons.2 ⟨fun hn ↦ ?_, hnames⟩⟩
        rw [hn.isStay] at hstay
        cases hstay
      rename_i hstay
      rw [Bool.not_eq_true] at hstay
      split at h
      · rename_i hup
        obtain ⟨hq, hnames⟩ := ih h
        rw [Path.steps_cons_move hstay, Component.ofSegment, if_pos hup]
        exact ⟨hq, List.forall_mem_cons.2 ⟨fun hn ↦ absurd hup hn.ne_dotdot, hnames⟩⟩
      rename_i hup
      split at h
      · cases h
      split at h
      · cases h
      rename_i hsize
      split at h
      · split at h
        · cases h
        · cases h
      · -- there are no links
        rename_i target hfound
        have hlink := (hroot.get? hdir).find? hfound
        cases hlink
      · obtain ⟨hq, hnames⟩ := ih h
        rw [Path.steps_cons_move hstay, Component.ofSegment, if_neg hup]
        exact ⟨hq, List.forall_mem_cons.2 ⟨fun _ ↦ Nat.not_lt.1 hsize, hnames⟩⟩
    · cases h

/-- **Names lead to what is there.** -/
theorem follow_names {ns : List String} : ∀ {place : Place} {node : Node},
    (∀ n ∈ ns, IsName n ∧ Path.size n ≤ maxName) → root.get? (place ++ ns) = some node →
      follow root .target onLink place ns = .ok (.entry (place ++ ns) node) := by
  induction ns with
  | nil =>
    intro place node _ h
    rw [List.append_nil] at h ⊢
    rw [follow, h]
  | cons n ns ih =>
    intro place node hns h
    rw [List.forall_mem_cons] at hns
    obtain ⟨⟨hn, hsize⟩, hns⟩ := hns
    have hbelow := h
    rw [Node.get?_append] at hbelow
    obtain ⟨above, habove, hbelow⟩ := Option.bind_eq_some_iff.1 hbelow
    obtain ⟨entries, child, rfl, hchild, -⟩ := Node.exists_dir_of_get?_cons hbelow
    have hlink := (hroot.get? habove).find? hchild
    have hrest : place ++ n :: ns = (place ++ [n]) ++ ns := by simp
    rw [hrest] at h ⊢
    rw [follow, habove]
    simp only [hn.isStay, hn.ne_dotdot, Nat.not_lt.2 hsize, Bool.false_eq_true, if_false,
      reduceCtorEq, decide_false, Bool.false_and, hchild]
    cases child with
    | link target => cases hlink
    | file content modified => exact ih hns h
    | dir es => exact ih hns h

end

/-- What is in a path besides segments that are kept makes no difference in a directory. -/
theorem follow_segments_spell {root : Node} {purpose : Purpose}
    {onLink : Place → List String → Except IoError Landing} {place : Place}
    {entries : List (String × Node)} (h : root.get? place = some (.dir entries)) (absolute : Bool)
    {ss : List String} (hss : ∀ s ∈ ss, IsKept s) :
    follow root purpose onLink place (segments (spell absolute ss)) =
      follow root purpose onLink place ss := by
  by_cases hnil : ss = []
  · subst hnil
    cases absolute with
    | true =>
      have hsegments : segments (spell true []) = ["", ""] := by decide
      rw [hsegments, follow_stay h rfl, follow_stay h rfl]
    | false =>
      have hsegments : segments (spell false []) = ["."] := by decide
      rw [hsegments, follow_stay h rfl]
  · rw [Path.spell_eq hss, if_neg fun hempty ↦ hnil ((Path.text_eq_empty_iff hss).1 hempty).2,
      Path.segments_text _ hss hnil]
    cases absolute with
    | true => rw [if_pos rfl, follow_stay h rfl]
    | false => rw [if_neg Bool.false_ne_true]

/-! ## Looking up -/

theorem utf8ByteSize_ofList_le {xs ys : List Char} (h : xs.Sublist ys) :
    (String.ofList xs).utf8ByteSize ≤ (String.ofList ys).utf8ByteSize := by
  induction h with
  | slnil => exact Nat.le_refl _
  | cons y h ih =>
    rw [String.ofList_cons, String.utf8ByteSize_append]
    omega
  | cons_cons x h ih =>
    rw [String.ofList_cons, String.ofList_cons, String.utf8ByteSize_append,
      String.utf8ByteSize_append]
    omega

/-- **The normal form of a path is no longer than the path**, so it can be looked up as well. -/
theorem isPath_normal {p : String} (h : IsPath p) : IsPath (normal p) := by
  by_cases hdot : normal p = "."
  · rw [hdot]
    exact ⟨by decide, by decide, by decide⟩
  · have hsub := Path.toList_normal_sublist hdot
    refine ⟨fun hnul ↦ h.isText (hsub.subset hnul), ?_, ?_⟩
    · rw [Path.normal_eq_spell]
      exact Path.spell_ne_empty fun s ↦ Path.isKept_of_mem_kept
    · have hsize := utf8ByteSize_ofList_le hsub
      rw [String.ofList_toList, String.ofList_toList] at hsize
      exact Nat.le_trans hsize h.size_le

theorem startOf_normal (d : Disk) (p : String) : d.startOf (normal p) = d.startOf p := by
  rw [startOf, startOf, Path.isAbsolute_normal]

theorem startOf_eq_foldl_go (d : Disk) (p : String) :
    d.startOf p = (origin p).foldl Place.go (placeOf d.workingDirectory) := by
  rw [startOf, origin]
  split
  · rfl
  · rfl

/-- Without links, the normal form of a path leads where the path leads. -/
theorem lookup_normal {d : Disk} (hd : d.root.IsLinkFree) {p : String} {place : Place} {node : Node}
    (h : d.lookup p = .ok (place, node)) : d.lookup (normal p) = .ok (place, node) := by
  obtain ⟨hpath, hfollow⟩ := lookup_eq_ok_iff.1 h
  obtain ⟨onLink, hlinks⟩ := exists_followLinks_eq d.root .target maxLinks
  rw [hlinks] at hfollow
  obtain ⟨entries, hdir⟩ := exists_dir_of_follow (Path.segments_ne_nil p) hfollow
  obtain ⟨hplace, hsizes⟩ := of_follow_eq_entry hd hfollow
  obtain ⟨k, ns, hkept, hns, -⟩ := Path.kept_eq_append p
  obtain ⟨es, -, hups⟩ := @follow_ups d.root .target onLink k ns _ _ hdir
  have hend : place = (List.replicate k Component.parent).foldl Place.go (d.startOf p) ++ ns := by
    rw [hplace, ← moves, startOf_eq_foldl_go, ← Place.foldl_go_kept, hkept, List.map_append,
      List.map_replicate, List.foldl_append, Place.foldl_go_names hns, Path.ofSegment_up]
  have hnames : ∀ n ∈ ns, IsName n ∧ Path.size n ≤ maxName := by
    intro n hn
    have hmem : n ∈ segments p := (Path.kept_sublist p).subset (hkept ▸ List.mem_append_right _ hn)
    exact ⟨hns n hn, hsizes n hmem (hns n hn)⟩
  refine lookup_eq_ok_iff.2 ⟨isPath_normal hpath, ?_⟩
  rw [hlinks, startOf_normal, Path.normal_eq_spell,
    follow_segments_spell hdir _ fun s ↦ Path.isKept_of_mem_kept, hkept, hups, hend]
  exact follow_names hd hnames (hend ▸ get?_of_lookup h)

/-- **Folding agrees with the disk, where there are no links.**  If a joined path can be looked up,
then the folded path can be, and it leads to the same entry at the same place. -/
theorem lookup_resolve {d : Disk} (hd : d.root.IsLinkFree) {base other : String} {place : Place}
    {node : Node} (h : d.lookup (Path.join base other) = .ok (place, node)) :
    d.lookup (Path.resolve base other) = .ok (place, node) := by
  rw [Path.resolve_eq]
  exact lookup_normal hd h

/-- A tree with two directories, seen from one of them. -/
def nestedDisk : Disk where
  root := .dir [("work", .dir [("lib", .dir []), ("a.ts", .file .empty 0)])]
  workingDirectory := "/work/lib"

/-- From the working directory past the root and down again. -/
theorem lookup_resolve_of_detour :
    nestedDisk.root.IsLinkFree ∧
      nestedDisk.lookup (Path.join "..//lib/./.." "../../../work/lib/../a.ts") =
        .ok (["work", "a.ts"], .file .empty 0) ∧
      Path.resolve "..//lib/./.." "../../../work/lib/../a.ts" = "../../../../work/a.ts" ∧
      nestedDisk.lookup (Path.resolve "..//lib/./.." "../../../work/lib/../a.ts") =
        .ok (["work", "a.ts"], .file .empty 0) := by
  have hfree : nestedDisk.root.IsLinkFree := by
    simp [nestedDisk, Node.isLinkFree_dir_iff, Node.IsLinkFree.file]
  have hlookup : nestedDisk.lookup (Path.join "..//lib/./.." "../../../work/lib/../a.ts") =
      .ok (["work", "a.ts"], .file .empty 0) := by
    rfl
  exact ⟨hfree, hlookup, by decide, lookup_resolve hfree hlookup⟩

end Disk

end HostOverlay
