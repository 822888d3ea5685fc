import HostOverlay.Proofs.Disk.Lookup

/-!
# The course of a path

`Leads root purpose n place ss l` says that the segments `ss`, followed from `place` with at most
`n` links on the way, end at `l`.  Its constructors are the steps that following a path can take, so
that a fact about where paths lead is proved by an induction with one case for each step.

* `followLinks_eq_ok_iff`: following a path succeeds exactly by such a course.
* `Leads.isIn`: a course ends in the tree.
* `Leads.mono`: more links do no harm.
* `Leads.target_of_writing`: a file that can be written to is where the path leads.
* `Leads.writing_of_target`: and so the other way round.
* `Leads.of_concat`: what no link leads to is reached by its own name.
* `Leads.eq_append_of_names`: the names of a directory lead to it.
-/

set_option autoImplicit false

namespace HostOverlay.Disk

/-- The segment `s`, with `rest` behind it, is the name of an entry to go to. -/
structure IsStep (purpose : Purpose) (s : String) (rest : List String) : Prop where
  isStay : Path.isStay s = false
  ne_up : s ≠ ".."
  not_slashes : ¬ (purpose = .writing ∧ onlySlashes rest = true)
  size_le : Path.size s ≤ maxName

/-- From `place` the segments lead to a landing, by at most `n` links. -/
inductive Leads (root : Node) (purpose : Purpose) :
    Nat → Place → List String → Landing → Prop
  | here {n : Nat} {place : Place} {node : Node} (get : root.get? place = some node) :
    Leads root purpose n place [] (.entry place node)
  | stay {n : Nat} {place : Place} {s : String} {rest : List String} {l : Landing}
    {entries : List (String × Node)} (get : root.get? place = some (.dir entries))
    (isStay : Path.isStay s = true) (next : Leads root purpose n place rest l) :
    Leads root purpose n place (s :: rest) l
  | up {n : Nat} {place : Place} {rest : List String} {l : Landing}
    {entries : List (String × Node)} (get : root.get? place = some (.dir entries))
    (next : Leads root purpose n place.dropLast rest l) :
    Leads root purpose n place (".." :: rest) l
  | vacant {n : Nat} {place : Place} {s : String} {rest : List String}
    {entries : List (String × Node)} (get : root.get? place = some (.dir entries))
    (isStep : IsStep purpose s rest) (find : Node.find? s entries = none)
    (slashes : ∀ r ∈ rest, r = "") : Leads root purpose n place (s :: rest) (.vacant place s)
  | itself {n : Nat} {place : Place} {s target : String} {entries : List (String × Node)}
    (get : root.get? place = some (.dir entries)) (isStep : IsStep purpose s [])
    (find : Node.find? s entries = some (.link target)) (isEntry : purpose = .entry) :
    Leads root purpose n place [s] (.entry (place ++ [s]) (.link target))
  | link {n : Nat} {place : Place} {s target : String} {rest : List String} {l : Landing}
    {entries : List (String × Node)} (get : root.get? place = some (.dir entries))
    (isStep : IsStep purpose s rest) (find : Node.find? s entries = some (.link target))
    (not_itself : ¬ (rest = [] ∧ purpose = .entry))
    (next : Leads root purpose n (linkStart place target) (Path.segments target ++ rest) l) :
    Leads root purpose (n + 1) place (s :: rest) l
  | name {n : Nat} {place : Place} {s : String} {rest : List String} {l : Landing} {child : Node}
    {entries : List (String × Node)} (get : root.get? place = some (.dir entries))
    (isStep : IsStep purpose s rest) (find : Node.find? s entries = some child)
    (ne_link : ∀ target, child ≠ .link target)
    (next : Leads root purpose n (place ++ [s]) rest l) : Leads root purpose n place (s :: rest) l

/-! ## Following is taking a course -/

section

variable {root : Node} {purpose : Purpose} {n : Nat}

theorem leads_of_follow {onLink : Place → List String → Except IoError Landing}
    (hlink : ∀ place ss l, onLink place ss = .ok l →
      ∃ m, n = m + 1 ∧ Leads root purpose m place ss l) {ss : List String} :
    ∀ {place : Place} {l : Landing}, follow root purpose onLink place ss = .ok l →
      Leads root purpose n place ss l := by
  induction ss with
  | nil =>
    intro place l h
    rw [follow] at h
    split at h
    · rename_i node hnode
      obtain rfl := Except.ok.inj h
      exact .here hnode
    · cases h
  | cons s rest ih =>
    intro place l h
    rw [follow] at h
    split at h
    · cases h
    · rename_i entries hdir
      split at h
      · rename_i hstay
        exact .stay hdir hstay (ih h)
      rename_i hstay
      split at h
      · rename_i hup
        exact hup ▸ .up hdir (ih h)
      rename_i hup
      split at h
      · cases h
      rename_i hslashes
      split at h
      · cases h
      rename_i hsize
      have hstep : IsStep purpose s rest :=
        ⟨by simpa using hstay, hup, by simpa using hslashes, Nat.not_lt.1 hsize⟩
      split at h
      · rename_i hnone
        split at h
        · rename_i hall
          obtain rfl := Except.ok.inj h
          exact .vacant hdir hstep hnone (by simpa using hall)
        · cases h
      · rename_i target hfound
        split at h
        · rename_i hitself
          obtain rfl := Except.ok.inj h
          simp only [Bool.and_eq_true, List.isEmpty_iff, decide_eq_true_eq] at hitself
          obtain ⟨rfl, hentry⟩ := hitself
          exact .itself hdir hstep hfound hentry
        · rename_i hitself
          obtain ⟨m, rfl, hnext⟩ := hlink _ _ _ h
          exact .link hdir hstep hfound (by simpa using hitself) hnext
      · rename_i child hnolink hfound
        exact .name hdir hstep hfound (fun target htarget ↦ hnolink target (htarget ▸ rfl)) (ih h)
    · cases h

theorem leads_of_followLinks (n : Nat) : ∀ (place : Place) (ss : List String) (l : Landing),
    followLinks root purpose n place ss = .ok l → Leads root purpose n place ss l := by
  induction n with
  | zero => exact fun place ss l ↦ leads_of_follow (by simp)
  | succ n ih => exact fun place ss l ↦ leads_of_follow fun place ss l h ↦ ⟨n, rfl, ih _ _ _ h⟩

/-- One step by name, without the guards before it. -/
theorem follow_step {onLink : Place → List String → Except IoError Landing} {place : Place}
    {entries : List (String × Node)} (get : root.get? place = some (.dir entries)) {s : String}
    {rest : List String} (isStep : IsStep purpose s rest) :
    follow root purpose onLink place (s :: rest) =
      match Node.find? s entries with
      | none => if rest.all (· = "") then .ok (.vacant place s) else .error .notFound
      | some (.link target) =>
        if rest.isEmpty && purpose = .entry then .ok (.entry (place ++ [s]) (.link target))
        else onLink (linkStart place target) (Path.segments target ++ rest)
      | some _ => follow root purpose onLink (place ++ [s]) rest := by
  rw [follow, get]
  simp only
  rewrite [if_neg (by simp [isStep.isStay]), if_neg isStep.ne_up,
    if_neg (by simpa using isStep.not_slashes), if_neg (Nat.not_lt.2 isStep.size_le)]
  rfl

theorem Leads.followLinks_eq {place : Place} {ss : List String} {l : Landing}
    (h : Leads root purpose n place ss l) : followLinks root purpose n place ss = .ok l := by
  induction h with
  | @here n place node get =>
    obtain ⟨onLink, hfollow⟩ := exists_followLinks_eq root purpose n
    rw [hfollow, follow, get]
  | @stay n place s rest l entries get isStay next ih =>
    obtain ⟨onLink, hfollow⟩ := exists_followLinks_eq root purpose n
    rw [hfollow] at ih ⊢
    rw [follow_stay get isStay, ih]
  | @up n place rest l entries get next ih =>
    obtain ⟨onLink, hfollow⟩ := exists_followLinks_eq root purpose n
    rw [hfollow] at ih ⊢
    rw [follow, get]
    exact ih
  | @vacant n place s rest entries get isStep find slashes =>
    obtain ⟨onLink, hfollow⟩ := exists_followLinks_eq root purpose n
    rw [hfollow, follow_step get isStep, find]
    exact if_pos (by simpa using slashes)
  | @itself n place s target entries get isStep find isEntry =>
    obtain ⟨onLink, hfollow⟩ := exists_followLinks_eq root purpose n
    rw [hfollow, follow_step get isStep, find]
    exact if_pos (by simpa using isEntry)
  | @link n place s target rest l entries get isStep find not_itself next ih =>
    rw [followLinks, follow_step get isStep, find]
    simp only
    rw [if_neg (by simpa using not_itself), ih]
  | @name n place s rest l child entries get isStep find ne_link next ih =>
    obtain ⟨onLink, hfollow⟩ := exists_followLinks_eq root purpose n
    rw [hfollow] at ih ⊢
    rw [follow_step get isStep, find]
    cases child with
    | link target => exact absurd rfl (ne_link target)
    | file content modified => exact ih
    | dir entries => exact ih

/-- **Following a path succeeds exactly by a course.** -/
theorem followLinks_eq_ok_iff {place : Place} {ss : List String} {l : Landing} :
    followLinks root purpose n place ss = .ok l ↔ Leads root purpose n place ss l :=
  ⟨leads_of_followLinks n place ss l, Leads.followLinks_eq⟩

end

/-- A search that succeeds takes a course to an entry. -/
theorem seek_eq_ok_iff_leads {d : Disk} {path : String} {place : Place} {node : Node} :
    d.seek path = .ok (place, node) ↔ IsRoute path ∧
      Leads d.root .target maxLinks (d.startOf path) (Path.segments path) (.entry place node) := by
  rw [seek_eq_ok_iff, followLinks_eq_ok_iff]

/-- A lookup that succeeds takes a course to an entry. -/
theorem lookup_eq_ok_iff_leads {d : Disk} {path : String} {place : Place} {node : Node} :
    d.lookup path = .ok (place, node) ↔ IsPath path ∧
      Leads d.root .target maxLinks (d.startOf path) (Path.segments path) (.entry place node) := by
  rw [lookup_eq_ok_iff, followLinks_eq_ok_iff]

theorem locate_eq_ok_iff_leads {d : Disk} {purpose : Purpose} {path : String} {l : Landing} :
    d.locate purpose path = .ok l ↔ IsPath path ∧
      Leads d.root purpose maxLinks (d.startOf path) (Path.segments path) l := by
  constructor
  · intro h
    have hpath := isPath_of_locate h
    rw [locate_of_isPath hpath] at h
    exact ⟨hpath, followLinks_eq_ok_iff.1 h⟩
  · rintro ⟨hpath, h⟩
    rw [locate_of_isPath hpath, h.followLinks_eq]

/-! ## Courses -/

namespace Leads

variable {root : Node} {purpose : Purpose} {n : Nat} {place : Place} {ss : List String}
  {l : Landing}

/-- **A course ends in the tree.** -/
theorem isIn (h : Leads root purpose n place ss l) : l.IsIn root :=
  Landing.isIn_followLinks _ _ _ _ h.followLinks_eq

/-- What stays can be left out. -/
theorem of_stay {s : String} (h : Leads root purpose n place (s :: ss) l)
    (hs : Path.isStay s = true) : Leads root purpose n place ss l := by
  have hstep : ∀ {rest}, ¬ IsStep purpose s rest := by
    intro rest hstep
    rw [hstep.isStay] at hs
    cases hs
  cases h with
  | stay get isStay next => exact next
  | up get next => cases hs
  | vacant get isStep => exact absurd isStep hstep
  | itself get isStep => exact absurd isStep hstep
  | link get isStep => exact absurd isStep hstep
  | name get isStep => exact absurd isStep hstep

/-- More links can be followed. -/
theorem mono (h : Leads root purpose n place ss l) : ∀ {m : Nat}, n ≤ m →
    Leads root purpose m place ss l := by
  induction h with
  | here get => exact fun _ ↦ .here get
  | stay get isStay next ih => exact fun hle ↦ .stay get isStay (ih hle)
  | up get next ih => exact fun hle ↦ .up get (ih hle)
  | vacant get isStep find slashes => exact fun _ ↦ .vacant get isStep find slashes
  | itself get isStep find isEntry => exact fun _ ↦ .itself get isStep find isEntry
  | link get isStep find not_itself next ih =>
    intro m hle
    obtain ⟨k, rfl⟩ : ∃ k, m = k + 1 := ⟨m - 1, by omega⟩
    exact .link get isStep find not_itself (ih (by omega))
  | name get isStep find ne_link next ih =>
    exact fun hle ↦ .name get isStep find ne_link (ih hle)

/-- **A file that can be written to** is where the path leads. -/
theorem target_of_writing (h : Leads root .writing n place ss l) :
    Leads root .target n place ss l := by
  have hstep : ∀ {s rest}, IsStep .writing s rest → IsStep .target s rest := fun hs ↦
    ⟨hs.isStay, hs.ne_up, by simp, hs.size_le⟩
  induction h with
  | here get => exact .here get
  | stay get isStay next ih => exact .stay get isStay ih
  | up get next ih => exact .up get ih
  | vacant get isStep find slashes => exact .vacant get (hstep isStep) find slashes
  | itself get isStep find isEntry => cases isEntry
  | link get isStep find not_itself next ih =>
    exact .link get (hstep isStep) find (by simp) ih
  | name get isStep find ne_link next ih => exact .name get (hstep isStep) find ne_link ih

/-- Where a slash is the last thing, the path leads into a directory. -/
theorem exists_dir_of_slash (h : Leads root purpose n place ss l) (hss : ss.getLast? = some "") :
    ∀ p node, l = .entry p node → ∃ entries, node = .dir entries := by
  have hrest : ∀ {s : String} {rest : List String}, Path.isStay s = false →
      (s :: rest).getLast? = some "" → rest ≠ [] ∧ rest.getLast? = some "" := by
    rintro s (_ | ⟨r, rest⟩) hs hlast
    · obtain rfl : s = "" := by simpa using hlast
      cases hs
    · exact ⟨List.cons_ne_nil _ _, hlast⟩
  induction h with
  | here get => cases hss
  | @stay n place s rest l entries get isStay next ih =>
    rcases rest with _ | ⟨r, rest⟩
    · rintro p node hl
      subst hl
      cases next with
      | here get' => exact ⟨entries, Option.some.inj (get'.symm.trans get)⟩
    · exact ih hss
  | up get next ih => exact ih (hrest (by decide) hss).2
  | vacant get isStep find slashes => exact fun _ _ hl ↦ nomatch hl
  | itself get isStep find isEntry => exact absurd rfl (hrest isStep.isStay hss).1
  | @link n place s target rest l entries get isStep find not_itself next ih =>
    exact ih (by rw [List.getLast?_append, (hrest isStep.isStay hss).2, Option.some_or])
  | name get isStep find ne_link next ih => exact ih (hrest isStep.isStay hss).2

/-- **A file that a path leads to** can be written to. -/
theorem writing_of_target {p : Place} {content : ByteArray} {modified : Int}
    (h : Leads root .target n place ss l) (hl : l = .entry p (.file content modified)) :
    Leads root .writing n place ss l := by
  -- what is behind a name is no row of slashes, since that would lead into a directory
  have hstep : ∀ {s rest} {place' : Place} {before : List String} {m : Nat},
      IsStep .target s rest → Leads root .target m place' (before ++ rest) l →
      IsStep .writing s rest := by
    intro s rest place' before m hs hnext
    refine ⟨hs.isStay, hs.ne_up, fun hslashes ↦ ?_, hs.size_le⟩
    have hrest := hslashes.2
    simp only [onlySlashes, Bool.and_eq_true, Bool.not_eq_true', List.isEmpty_eq_false_iff,
      List.all_eq_true, decide_eq_true_eq] at hrest
    obtain ⟨hne, hall⟩ := hrest
    have hlast : (before ++ rest).getLast? = some "" := by
      rw [List.getLast?_append, List.getLast?_eq_some_getLast hne,
        hall _ (List.getLast_mem hne), Option.some_or]
    obtain ⟨entries, hdir⟩ := hnext.exists_dir_of_slash hlast _ _ hl
    cases hdir
  induction h with
  | here get => exact .here get
  | stay get isStay next ih => exact .stay get isStay (ih hl hstep)
  | up get next ih => exact .up get (ih hl hstep)
  | vacant get isStep find slashes => cases hl
  | itself get isStep find isEntry => cases isEntry
  | link get isStep find not_itself next ih =>
    exact .link get (hstep isStep next) find (by simp) (ih hl hstep)
  | @name n place s rest l child entries get isStep find ne_link next ih =>
    have hnext : Leads root .target n (place ++ [s]) ([] ++ rest) l := next
    exact .name get (hstep isStep hnext) find ne_link (ih hl hstep)

end Leads

/-! ## What no link leads to -/

/-- A file is the end of every course that comes to it. -/
theorem Leads.eq_of_not_dir {root : Node} {purpose : Purpose} {n : Nat} {place : Place}
    {ss : List String} {l : Landing} (h : Leads root purpose n place ss l) {node : Node}
    (hget : root.get? place = some node) (hnode : node.isDir = false) : l = .entry place node := by
  have hdir : ∀ {entries : List (String × Node)}, root.get? place ≠ some (.dir entries) := by
    intro entries hdir
    obtain rfl := Option.some.inj (hget.symm.trans hdir)
    cases hnode
  cases h with
  | here get => rw [Option.some.inj (hget.symm.trans get)]
  | stay get => exact absurd get hdir
  | up get => exact absurd get hdir
  | vacant get => exact absurd get hdir
  | itself get => exact absurd get hdir
  | link get => exact absurd get hdir
  | name get => exact absurd get hdir

/-- No link in the tree leads to the entry at the place. -/
def HasNoLinkTo (root : Node) (q : Place) : Prop :=
  ∀ directory name target, root.get? (directory ++ [name]) = some (.link target) →
    ∀ node, followLinks root .target maxLinks directory [name] ≠ .ok (.entry q node)

/-- **What no link leads to is reached by its own name**, from the directory that it is in. -/
theorem Leads.of_concat {root : Node} {n : Nat} {place : Place} {ss : List String} {l : Landing}
    (h : Leads root .target n place ss l) {directory : Place} {name : String} {node : Node}
    (hl : l = .entry (directory ++ [name]) node) (hlinks : HasNoLinkTo root (directory ++ [name]))
    {m : String} (hm : Path.IsName m) : n ≤ maxLinks → ∀ {before : List String},
      ss = before ++ [m] → m = name ∧
        ∃ entries, Leads root .target n place before (.entry directory (.dir entries)) := by
  have hstep : ∀ {s : String} {rest before : List String}, IsStep .target s rest →
      IsStep .target s before := fun hs ↦ ⟨hs.isStay, hs.ne_up, by simp, hs.size_le⟩
  induction h with
  | here get =>
    intro hn before hss
    simp at hss
  | @stay n place s rest l entries get isStay next ih =>
    rintro hn (_ | ⟨b, before⟩) hss
    · obtain ⟨rfl, -⟩ := List.cons.inj hss
      rw [hm.isStay] at isStay
      cases isStay
    · obtain ⟨rfl, hrest⟩ := List.cons.inj hss
      obtain ⟨hname, es, hbefore⟩ := ih hl hn hrest
      exact ⟨hname, es, .stay get isStay hbefore⟩
  | @up n place rest l entries get next ih =>
    rintro hn (_ | ⟨b, before⟩) hss
    · exact absurd (List.cons.inj hss).1.symm hm.ne_dotdot
    · obtain ⟨rfl, hrest⟩ := List.cons.inj hss
      obtain ⟨hname, es, hbefore⟩ := ih hl hn hrest
      exact ⟨hname, es, .up get hbefore⟩
  | vacant get isStep find slashes => cases hl
  | itself get isStep find isEntry => cases isEntry
  | @link n place s target rest l entries get isStep find not_itself next ih =>
    rintro hn (_ | ⟨b, before⟩) hss
    · -- the link is the last step, and so leads to the place itself
      obtain ⟨rfl, rfl⟩ := List.cons.inj hss
      subst hl
      have hcourse := (Leads.link get isStep find not_itself next).mono hn
      exact absurd hcourse.followLinks_eq
        (hlinks place s target ((Node.get?_concat get s).trans find) node)
    · obtain ⟨rfl, hrest⟩ := List.cons.inj hss
      have hsegments : Path.segments target ++ rest =
          (Path.segments target ++ before) ++ [m] := by
        rw [hrest, List.append_assoc]
        rfl
      obtain ⟨hname, es, hbefore⟩ := ih hl (Nat.le_of_succ_le hn) hsegments
      exact ⟨hname, es, .link get (hstep isStep) find (by simp) hbefore⟩
  | @name n place s rest l child entries get isStep find ne_link next ih =>
    rintro hn (_ | ⟨b, before⟩) hss
    · obtain ⟨rfl, rfl⟩ := List.cons.inj hss
      cases next with
      | here get' =>
        obtain ⟨rfl, hname⟩ := List.append_inj' (Landing.entry.inj hl).1 rfl
        exact ⟨(List.cons.inj hname).1, entries, .here get⟩
    · obtain ⟨rfl, hrest⟩ := List.cons.inj hss
      obtain ⟨hname, es, hbefore⟩ := ih hl hn hrest
      exact ⟨hname, es, .name get (hstep isStep) find ne_link hbefore⟩

/-! ## Slashes and names -/

/-- Slashes behind a directory lead nowhere else. -/
theorem leads_slashes {root : Node} {n : Nat} {place : Place} {entries : List (String × Node)}
    (hget : root.get? place = some (.dir entries)) {slashes : List String}
    (hslashes : ∀ s ∈ slashes, s = "") :
    Leads root .target n place slashes (.entry place (.dir entries)) := by
  induction slashes with
  | nil => exact .here hget
  | cons s rest ih =>
    rw [List.forall_mem_cons] at hslashes
    exact .stay hget (by rw [hslashes.1]; rfl) (ih hslashes.2)

/-- Slashes can be put behind what leads to a directory. -/
theorem Leads.append_slashes {root : Node} {n : Nat} {place q : Place} {ss : List String}
    {entries : List (String × Node)} (h : Leads root .target n place ss (.entry q (.dir entries)))
    {slashes : List String} (hslashes : ∀ s ∈ slashes, s = "") :
    Leads root .target n place (ss ++ slashes) (.entry q (.dir entries)) := by
  have hss : followLinks root .target n place (ss ++ []) = .ok (.entry q (.dir entries)) := by
    rw [List.append_nil, h.followLinks_eq]
  obtain ⟨m, hm⟩ := followLinks_append (by simp) n place ss hss
  rw [← followLinks_eq_ok_iff, hm, followLinks_eq_ok_iff]
  exact leads_slashes h.isIn hslashes

/-- **The names of a directory** lead to it and nowhere else. -/
theorem Leads.eq_append_of_names {root : Node} {entries : List (String × Node)} {n : Nat}
    {q : Place} {node : Node} {ns : List String} (hns : ∀ m ∈ ns, Path.IsName m) :
    ∀ {place : Place}, root.get? (place ++ ns) = some (.dir entries) →
      Leads root .target n place ns (.entry q node) → q = place ++ ns := by
  induction ns generalizing n with
  | nil =>
    intro place hget h
    cases h with
    | here get => rw [List.append_nil]
  | cons m ns ih =>
    intro place hget h
    rw [List.forall_mem_cons] at hns
    rw [← List.singleton_append, ← List.append_assoc] at hget ⊢
    cases h with
    | stay get isStay next => exact absurd (hns.1.isStay.symm.trans isStay) (by simp)
    | up get next => exact absurd rfl hns.1.ne_dotdot
    | itself get isStep find isEntry => cases isEntry
    | link get isStep find not_itself next =>
      -- a directory lies below no link
      obtain ⟨es, hes⟩ : ∃ es, root.get? (place ++ [m]) = some (.dir es) := by
        rcases ns with _ | ⟨k, ns⟩
        · exact ⟨entries, by rwa [List.append_nil] at hget⟩
        · have hfront : place ++ [m] ++ [k] <+: place ++ [m] ++ k :: ns :=
            ⟨ns, by rw [List.append_assoc]; rfl⟩
          exact Node.exists_dir_of_isPrefix hget hfront
      rw [Node.get?_concat get, find] at hes
      cases hes
    | name get isStep find ne_link next => exact ih hns.2 hget next

end HostOverlay.Disk
