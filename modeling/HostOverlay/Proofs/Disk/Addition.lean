import HostOverlay.Proofs.Disk.Write

/-!
# A file that was not there before

When a file is put at a free place, a path that does not lead to it leads to the same entry as
before, and leads nowhere if it led nowhere.  So whoever looks at other paths sees the same.

* `Leads.of_put`: the same course in the tree as it was.
* `IsAddition.sight_eq_or`: what is seen at a path, before and after.
* `IsAddition.sight_eq_of_getLast?`, `IsAddition.sight_join_eq`: paths with another name at their
  end, or below another directory, do not lead to the new file, if no link does.
-/

set_option autoImplicit false

namespace HostOverlay

namespace Node

/-! ## Trees with one more entry -/

theorem map_fst_setEntry (name : String) (node : Node) (entries : List (String × Node)) :
    (setEntry name node entries).map Prod.fst =
      if name ∈ entries.map Prod.fst then entries.map Prod.fst
      else entries.map Prod.fst ++ [name] := by
  induction entries with
  | nil => rfl
  | cons e rest ih =>
    by_cases he : e.1 = name
    · simp [setEntry, he]
    · rw [setEntry, if_neg he, List.map_cons, List.map_cons, ih]
      by_cases hname : name ∈ rest.map Prod.fst
      · simp [hname]
      · simp [hname, Ne.symm he]

theorem mem_setEntry {name : String} {node : Node} {entries : List (String × Node)}
    {e : String × Node} (h : e ∈ setEntry name node entries) : e = (name, node) ∨ e ∈ entries := by
  induction entries with
  | nil => exact .inl (List.mem_singleton.1 h)
  | cons e' rest ih =>
    rw [setEntry] at h
    split at h
    · exact (List.mem_cons.1 h).imp_right (List.mem_cons_of_mem _)
    · rcases List.mem_cons.1 h with rfl | h
      · exact .inr List.mem_cons_self
      · exact (ih h).imp_right (List.mem_cons_of_mem _)

/-- A tree with a file put at a place is one that a file system can hold. -/
theorem IsRealizable.put {content : ByteArray} {modified : Int} {place : Place}
    (hplace : ∀ n ∈ place, IsEntryName n) : ∀ {root : Node}, root.IsRealizable →
      (Node.put (.file content modified) place root).IsRealizable := by
  induction place with
  | nil => exact fun _ ↦ .file content modified
  | cons name rest ih =>
    intro root hroot
    rw [List.forall_mem_cons] at hplace
    have hempty : emptyDir.IsRealizable := isRealizable_dir_iff.2 ⟨List.nodup_nil, by simp⟩
    have hone : ∀ {node : Node}, node.IsRealizable → (Node.dir [(name, node)]).IsRealizable :=
      fun hnode ↦ isRealizable_dir_iff.2 ⟨by simp, by simp [hplace.1, hnode]⟩
    cases hroot with
    | file content' modified' => exact hone (ih hplace.2 hempty)
    | link target => exact hone (ih hplace.2 hempty)
    | @dir entries distinct names nodes =>
      rw [Node.put]
      refine isRealizable_dir_iff.2 ⟨?_, fun e he ↦ ?_⟩
      · rw [map_fst_setEntry]
        split
        · exact distinct
        · rename_i hname
          refine List.nodup_append.2 ⟨distinct, by simp, fun n hn m hm ↦ ?_⟩
          obtain rfl := List.mem_singleton.1 hm
          exact fun heq ↦ hname (heq ▸ hn)
      · rcases mem_setEntry he with rfl | he
        · refine ⟨hplace.1, ih hplace.2 ?_⟩
          cases hfind : find? name entries with
          | none => exact hempty
          | some child => exact nodes _ (mem_of_find? hfind)
        · exact ⟨names e he, nodes e he⟩

end Node

namespace Disk

/-! ## The same course in the tree as it was -/

/-- **What leads to an entry other than the new file** led there before. -/
theorem Leads.of_put {root root' new : Node} {q : Place} (hput : root.IsPut q new root') {n : Nat}
    {place : Place} {ss : List String} {l : Landing} (h : Leads root' .target n place ss l) :
    ∀ {p : Place} {node' : Node}, l = .entry p node' → p ≠ q →
      ∃ node, Leads root .target n place ss (.entry p node) := by
  have hlast : ∀ {place : Place} {node' : Node}, place ≠ q → root'.get? place = some node' →
      ∃ node, root.get? place = some node ∧ node.shape = node'.shape := by
    intro place node' hne hget
    have hshape := hput.map_shape hne
    rw [hget] at hshape
    exact Option.map_eq_some_iff.1 hshape.symm
  induction h with
  | @here n place node get =>
    rintro p node' hl hne
    obtain ⟨rfl, rfl⟩ := Landing.entry.inj hl
    obtain ⟨old, hold, -⟩ := hlast hne get
    exact ⟨old, .here hold⟩
  | stay get isStay next ih =>
    intro p node' hl hne
    obtain ⟨es, hdir⟩ := hput.exists_dir_of_new get
    obtain ⟨node, hnext⟩ := ih hl hne
    exact ⟨node, .stay hdir isStay hnext⟩
  | up get next ih =>
    intro p node' hl hne
    obtain ⟨es, hdir⟩ := hput.exists_dir_of_new get
    obtain ⟨node, hnext⟩ := ih hl hne
    exact ⟨node, .up hdir hnext⟩
  | vacant get isStep find slashes => exact fun hl ↦ nomatch hl
  | itself get isStep find isEntry => cases isEntry
  | @link n place s target rest l entries get isStep find not_itself next ih =>
    intro p node' hl hne
    obtain ⟨es, hdir⟩ := hput.exists_dir_of_new get
    obtain ⟨node, hnext⟩ := ih hl hne
    have hlink : root'.get? (place ++ [s]) = some (.link target) :=
      (Node.get?_concat get s).trans find
    have hq : place ++ [s] ≠ q := by
      rintro rfl
      rw [hput.get_self] at hlink
      cases Option.some.inj hlink ▸ hput.shape_new
    obtain ⟨old, hold, hshape⟩ := hlast hq hlink
    rw [Node.get?_concat hdir s, Node.eq_link_of_shape_eq hshape] at hold
    exact ⟨node, .link hdir isStep hold not_itself hnext⟩
  | @name n place s rest l child entries get isStep find ne_link next ih =>
    intro p node' hl hne
    obtain ⟨es, hdir⟩ := hput.exists_dir_of_new get
    obtain ⟨node, hnext⟩ := ih hl hne
    have hq : place ++ [s] ≠ q := by
      rintro rfl
      have hend := next.eq_of_not_dir hput.get_self (Node.isDir_eq_false_of_shape hput.shape_new)
      exact hne (Landing.entry.inj (hl.symm.trans hend)).1
    obtain ⟨old, hold, hshape⟩ := hlast hq ((Node.get?_concat get s).trans find)
    rw [Node.get?_concat hdir s] at hold
    refine ⟨node, .name hdir isStep hold (fun target htarget ↦ ?_) hnext⟩
    rw [htarget] at hshape
    exact ne_link target (Node.eq_link_of_shape_eq hshape.symm)

/-! ## What is seen at a path -/

/-- What is seen at a written path: the place that it leads to, and what is there by itself. -/
def sight (d : Disk) (path : String) : Option (Place × Node) :=
  (d.seek path).toOption.map fun (place, node) ↦ (place, node.shallow)

theorem sight_of_seek {d : Disk} {path : String} {place : Place} {node : Node}
    (h : d.seek path = .ok (place, node)) : d.sight path = some (place, node.shallow) := by
  rw [sight, h]
  rfl

theorem sight_of_error {d : Disk} {path : String} {e : IoError} (h : d.seek path = .error e) :
    d.sight path = none := by
  rw [sight, h]
  rfl

section

variable {d d' : Disk} {path : String}

theorem reaches_eq (d : Disk) (path : String) :
    d.reaches path = (d.sight path).isSome := by
  rw [reaches, sight]
  cases d.seek path <;> rfl

/-- Whether a path leads anywhere is seen. -/
theorem reaches_congr (h : d'.sight path = d.sight path) :
    d'.reaches path = d.reaches path := by
  rw [reaches_eq, reaches_eq, h]

/-- Whether a path leads to a file is seen. -/
theorem reachesFile_congr (h : d'.sight path = d.sight path) :
    d'.reachesFile path = d.reachesFile path := by
  have hsight : ∀ d : Disk, d.reachesFile path = (d.sight path).any fun x ↦ x.2.isFile := by
    intro d
    rw [reachesFile]
    rcases hseek : d.seek path with e | ⟨place, node⟩
    · rw [sight_of_error hseek]
      rfl
    · rw [sight_of_seek hseek]
      cases node <;> rfl
  rw [hsight, hsight, h]

/-- A file is read by what is seen of it. -/
theorem fetch_eq_ok_iff {content : ByteArray} : d.fetch path = .ok content ↔
    ∃ place modified, d.sight path = some (place, .file content modified) := by
  rw [fetch]
  rcases hseek : d.seek path with e | ⟨place, node⟩
  · rw [sight_of_error hseek]
    exact iff_of_false (by simp [bind, Except.bind]) (by simp)
  · rw [sight_of_seek hseek]
    cases node with
    | file content' modified => simp [bind, Except.bind, contentOf, Node.shallow]
    | link target => simp [bind, Except.bind, contentOf, Node.shallow]
    | dir entries => simp [bind, Except.bind, contentOf, Node.shallow, Node.emptyDir]

/-- What can be read is seen. -/
theorem toOption_fetch_congr (h : d'.sight path = d.sight path) :
    (d'.fetch path).toOption = (d.fetch path).toOption := by
  have hfetch : ∀ (d : Disk) content, (d.fetch path).toOption = some content ↔
      d.fetch path = .ok content := by
    intro d content
    cases d.fetch path <;> simp [Except.toOption]
  refine Option.ext fun content ↦ ?_
  rw [hfetch, hfetch, fetch_eq_ok_iff, fetch_eq_ok_iff, h]

end

/-- The second disk is the first one with a new file at a place that was free. -/
structure IsAddition (d : Disk) (q : Place) (new : Node) (d' : Disk) : Prop where
  isPut : d.root.IsPut q new d'.root
  vacant : d.root.get? q = none
  workingDirectory : d'.workingDirectory = d.workingDirectory
  userExcludes : d'.userExcludes = d.userExcludes

theorem isAddition_putAt {d : Disk} {directory : Place} {entries : List (String × Node)}
    (hdir : d.root.get? directory = some (.dir entries)) {name : String}
    (hfree : Node.find? name entries = none) (content : ByteArray) (modified : Int) :
    d.IsAddition (directory ++ [name]) (.file content modified)
      (d.putAt (directory ++ [name]) (.file content modified)) := by
  have hopen : d.root.IsOpenAt (directory ++ [name]) :=
    Landing.IsIn.isOpenAt (l := .vacant directory name) ⟨entries, hdir, hfree⟩ (by simp)
  exact ⟨Node.isPut_put hopen content modified, (Node.get?_concat hdir name).trans hfree, rfl,
    rfl⟩

namespace IsAddition

variable {d d' : Disk} {q : Place} {new : Node} (h : d.IsAddition q new d')

include h

/-- What a path led to, it leads to. -/
theorem seek {path : String} {place : Place} {node : Node}
    (hseek : d.seek path = .ok (place, node)) :
    place ≠ q ∧ ∃ node', d'.seek path = .ok (place, node') := by
  obtain ⟨hroute, hleads⟩ := seek_eq_ok_iff_leads.1 hseek
  refine ⟨?_, ?_⟩
  · rintro rfl
    have hget : d.root.get? place = some node := hleads.isIn
    rw [h.vacant] at hget
    cases hget
  · obtain ⟨node', hleads'⟩ := hleads.put h.isPut (by simp) (by simp)
    rw [startOf, ← h.workingDirectory] at hleads'
    exact ⟨node', seek_eq_ok_iff_leads.2 ⟨hroute, hleads'⟩⟩

/-- **A path leads where it led, or to the new file**, and then it led nowhere. -/
theorem sight_eq_or (path : String) : d'.sight path = d.sight path ∨
    d.sight path = none ∧ d'.seek path = .ok (q, new) := by
  rcases hseek' : d'.seek path with e | ⟨place, node'⟩
  · left
    rcases hseek : d.seek path with e | ⟨place, node⟩
    · rw [sight_of_error hseek, sight_of_error hseek']
    · obtain ⟨-, node', hnew⟩ := h.seek hseek
      rw [hnew] at hseek'
      cases hseek'
  · obtain ⟨hroute, hleads⟩ := seek_eq_ok_iff_leads.1 hseek'
    by_cases hq : place = q
    · subst hq
      right
      obtain rfl := Option.some.inj (h.isPut.get_self.symm.trans hleads.isIn)
      refine ⟨?_, rfl⟩
      rcases hseek : d.seek path with e | ⟨place', node⟩
      · exact sight_of_error hseek
      · obtain ⟨hne, node', hsame⟩ := h.seek hseek
        rw [hseek'] at hsame
        exact absurd (Prod.mk.inj (Except.ok.inj hsame)).1.symm hne
    · left
      obtain ⟨node, hold⟩ := hleads.of_put h.isPut rfl hq
      rw [startOf, h.workingDirectory] at hold
      have hseek : d.seek path = .ok (place, node) := seek_eq_ok_iff_leads.2 ⟨hroute, hold⟩
      have hsame := h.isPut.get_other place hq
      rw [show d'.root.get? place = some node' from hleads.isIn,
        show d.root.get? place = some node from hold.isIn] at hsame
      rw [sight_of_seek hseek, sight_of_seek hseek', Option.some.inj hsame]

/-- **A path with another name at its end** leads where it led, when no link leads to the new
file. -/
theorem sight_eq_of_getLast? {directory : Place} {name : String} (hq : q = directory ++ [name])
    (hlinks : HasNoLinkTo d'.root q) {path m : String}
    (hlast : (Path.segments path).getLast? = some m) (hm : Path.IsName m) (hne : m ≠ name) :
    d'.sight path = d.sight path := by
  refine (h.sight_eq_or path).resolve_right fun ⟨_, hnew⟩ ↦ hne ?_
  subst hq
  obtain ⟨before, hbefore⟩ := List.getLast?_eq_some_iff.1 hlast
  exact ((seek_eq_ok_iff_leads.1 hnew).2.of_concat rfl hlinks hm (Nat.le_refl _) hbefore).1

/-- **The name of the new file below another directory** leads where it led. -/
theorem sight_join_eq {directory : Place} {name : String} (hq : q = directory ++ [name])
    (hlinks : HasNoLinkTo d'.root q) {dir m : String} (hdir : dir ≠ "") (hm : Path.IsName m)
    (hother : ∀ entries, d'.seek dir ≠ .ok (directory, .dir entries)) :
    d'.sight (Path.join dir m) = d.sight (Path.join dir m) := by
  refine (h.sight_eq_or _).resolve_right fun ⟨_, hnew⟩ ↦ ?_
  subst hq
  obtain ⟨ss, slashes, hslashes, hsegments, hjoin⟩ := segments_join_name hdir hm
  obtain ⟨hroute, hleads⟩ := seek_eq_ok_iff_leads.1 hnew
  obtain ⟨-, entries, hbefore⟩ := hleads.of_concat rfl hlinks hm (Nat.le_refl _) hjoin
  rw [startOf_join d' dir hm] at hbefore
  refine hother entries (seek_eq_ok_iff_leads.2 ⟨?_, ?_⟩)
  · exact isRoute_of_join hdir (Path.isAbsolute_of_no_slash hm.no_slash) hroute
  · rw [hsegments]
    exact hbefore.append_slashes hslashes

end IsAddition

end Disk

end HostOverlay
