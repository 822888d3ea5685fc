import HostOverlay.Proofs.Path.Fold

/-!
# Canonical paths

A path is canonical when it is spelt as names behind the root, with one slash before each.  This is
how a system spells its working directory, and how `resolve` spells whatever begins at the root.

* `normal_eq_self_iff`: an absolute path is its own normal form exactly when it is canonical.
* `resolve_sibling`: a file, seen from the directory it lies in, has the normal form of its path.
* `absolute?_eq_some`: what `absolute?` does, as a fold over the moves of a path.
* `absolute?_spec`: a path that is made absolute says what it says behind the working directory.
* `isCanonical_below_iff`: which roots have canonical paths below them once they are made absolute.
-/

set_option autoImplicit false

namespace HostOverlay.Path

/-! ## Names behind the root -/

/-- The path is spelt as names behind the root. -/
def IsCanonical (p : String) : Prop :=
  ∃ ns : List String, (∀ n ∈ ns, IsName n) ∧ p = "/" ++ joinSegments ns

theorem isCanonical_root : IsCanonical "/" :=
  ⟨[], by simp, by decide⟩

/-- Names are pushed as they come. -/
theorem foldl_push_names (ns : List String) (stack : List Component) :
    (ns.map Component.name).foldl push stack = (ns.map Component.name).reverse ++ stack := by
  induction ns generalizing stack with
  | nil => rfl
  | cons n ns ih => simp [ih, push]

/-- A path that ends in a name does not end in a slash. -/
theorem hasTrailingSlash_of_getLast? {p n : String} (h : (segments p).getLast? = some n)
    (hn : IsName n) : hasTrailingSlash p = false := by
  rw [Bool.eq_false_iff]
  intro hslash
  obtain ⟨q, rfl⟩ := hasTrailingSlash_iff.1 hslash
  rw [segments_append_slash, List.getLast?_concat, Option.some_inj] at h
  exact hn.ne_empty h.symm

theorem isCanonical_normal {p : String} (h : isAbsolute p = true) : IsCanonical (normal p) := by
  have hfolded := isFolded_folded p
  rw [h] at hfolded
  obtain ⟨ns, hns, -, hrender⟩ := render_of_isFolded_true hfolded
  exact ⟨ns, hns, hrender⟩

namespace IsCanonical

variable {p : String}

theorem isAbsolute (h : IsCanonical p) : isAbsolute p = true := by
  obtain ⟨ns, -, rfl⟩ := h
  exact isAbsolute_root_append _

/-- All moves of a canonical path are names. -/
theorem moves (h : IsCanonical p) :
    ∃ ns : List String, p = "/" ++ joinSegments ns ∧ moves p = ns.map Component.name := by
  obtain ⟨ns, hns, rfl⟩ := h
  refine ⟨ns, rfl, ?_⟩
  rw [moves_root_append, moves_joinSegments fun n hn ↦ (hns n hn).no_slash, steps_names hns]

theorem parent_notMem_moves (h : IsCanonical p) : Component.parent ∉ Path.moves p := by
  obtain ⟨ns, -, hmoves⟩ := h.moves
  simp [hmoves]

theorem normal_eq (h : IsCanonical p) : normal p = p := by
  obtain ⟨ns, hp, hmoves⟩ := h.moves
  have hfolded : (folded p).reverse = .root :: ns.map Component.name := by
    rw [folded, hmoves, foldl_push_names, origin, h.isAbsolute]
    simp
  rw [normal, hfolded, render, map_spelling_name, ← hp]

/-- A canonical path does not begin with two slashes. -/
theorem not_isPrefix (h : IsCanonical p) : ¬ ['/', '/'] <+: p.toList := by
  obtain ⟨ns, hns, rfl⟩ := h
  have hrel : Path.isAbsolute (joinSegments ns) = false := by
    refine isAbsolute_joinSegments (fun n hn ↦ (hns n hn).no_slash) ?_
    rintro s rest rfl
    exact (hns "" List.mem_cons_self).ne_empty rfl
  have hlist : ("/" ++ joinSegments ns).toList = '/' :: (joinSegments ns).toList := by simp
  rw [hlist, List.cons_prefix_cons, ← List.isPrefixOf_iff_prefix]
  rintro ⟨-, habs⟩
  rw [Path.isAbsolute, habs] at hrel
  cases hrel

/-- The path of an entry in a directory with a canonical path. -/
theorem join (h : IsCanonical p) {n : String} (hn : IsName n) : IsCanonical (join p n) := by
  obtain ⟨ns, hns, rfl⟩ := h
  have hrel : Path.isAbsolute n = false := isAbsolute_of_no_slash hn.no_slash
  have hne : "/" ++ joinSegments ns ≠ "" := by simp
  simp only [Path.join, hrel, hne, Bool.false_eq_true, if_false, decide_false, Bool.false_or]
  by_cases hnil : ns = []
  · subst hnil
    refine ⟨[n], by simpa using hn, ?_⟩
    have hslash : hasTrailingSlash ("/" ++ joinSegments []) = true := by decide
    rw [if_pos hslash, joinSegments_singleton]
    rfl
  · obtain ⟨ms, m, rfl⟩ := List.eq_nil_or_concat ns |>.resolve_left hnil
    rw [List.concat_eq_append] at hns hnil ⊢
    have hlast : (segments ("/" ++ joinSegments (ms ++ [m]))).getLast? = some m := by
      rw [segments_root_append, segments_joinSegments hnil fun n hn ↦ (hns n hn).no_slash,
        ← List.cons_append, List.getLast?_concat]
    have hslash : hasTrailingSlash ("/" ++ joinSegments (ms ++ [m])) = false :=
      hasTrailingSlash_of_getLast? hlast (hns m (by simp))
    refine ⟨ms ++ [m] ++ [n], List.forall_mem_append.2 ⟨hns, by simpa using hn⟩, ?_⟩
    rw [hslash, joinSegments_append hnil (List.cons_ne_nil _ _), joinSegments_singleton]
    simp [String.append_assoc]

end IsCanonical

/-- **An absolute path is its own normal form exactly when it is canonical.** -/
theorem normal_eq_self_iff {p : String} (h : isAbsolute p = true) :
    normal p = p ↔ IsCanonical p := by
  constructor
  · intro hp
    rw [← hp]
    exact isCanonical_normal h
  · exact IsCanonical.normal_eq

/-! ## Files in one directory -/

/-- **A file, seen from the directory it lies in, has the normal form of its path.** -/
theorem resolve_sibling {p n : String} (hlast : (segments p).getLast? = some n) (hn : IsName n) :
    resolve (directory p) ("./" ++ n) = normal p := by
  obtain ⟨cs, hcs⟩ := moves_of_getLast? hlast hn
  have hne : moves p ≠ [] := by simp [hcs]
  obtain ⟨habs, hmoves⟩ := directory_spec hne
  have hrel : isAbsolute ("./" ++ n) = false := by
    rw [isAbsolute_append (by decide)]
    decide
  have hdot : moves ("./" ++ n) = [.name n] := by
    rw [moves, segments_here_append, steps_cons_stay rfl, ← moves, moves_name hn]
  rw [resolve_eq]
  refine normal_congr ?_ ?_
  · rw [isAbsolute_join, hrel, habs, Bool.false_or]
  · rw [moves_join hrel, hmoves, hdot, hcs, List.dropLast_concat]

/-! ## Paths made absolute -/

/-- A path keeps its beginning when something relative is put behind it. -/
theorem isPrefix_join (p : String) {q : String} (hq : isAbsolute q = false) :
    p.toList <+: (join p q).toList := by
  simp only [join, hq, Bool.false_eq_true, if_false]
  split
  · simp
  · simp [List.append_assoc]

theorem isPrefix_foldl_join {qs : List String} (hqs : ∀ q ∈ qs, isAbsolute q = false)
    (p : String) : p.toList <+: (qs.foldl join p).toList := by
  induction qs generalizing p with
  | nil => exact List.prefix_rfl
  | cons q qs ih =>
    rw [List.forall_mem_cons] at hqs
    exact (isPrefix_join p hqs.1).trans (ih hqs.2 _)

theorem moves_foldl_join {qs : List String} (hqs : ∀ q ∈ qs, isAbsolute q = false) (p : String) :
    moves (qs.foldl join p) = moves p ++ qs.flatMap moves := by
  induction qs generalizing p with
  | nil => simp
  | cons q qs ih =>
    rw [List.forall_mem_cons] at hqs
    rw [List.foldl_cons, ih hqs.2, moves_join hqs.1, List.flatMap_cons, List.append_assoc]

theorem IsCanonical.foldl_join {ns : List String} (hns : ∀ n ∈ ns, IsName n) {p : String}
    (h : IsCanonical p) : IsCanonical (ns.foldl Path.join p) := by
  induction ns generalizing p with
  | nil => exact h
  | cons n ns ih =>
    rw [List.forall_mem_cons] at hns
    exact ih hns.2 (h.join hns.1)

theorem isAbsolute_foldl_join (qs : List String) {p : String} (h : isAbsolute p = true) :
    isAbsolute (qs.foldl join p) = true := by
  induction qs generalizing p with
  | nil => exact h
  | cons q qs ih => exact ih (by rw [isAbsolute_join, h, Bool.or_true])

theorem IsMove.isAbsolute_spelling {c : Component} (h : IsMove c) :
    isAbsolute c.spelling = false := by
  cases c with
  | root => exact h.elim
  | current => exact h.elim
  | parent => decide
  | name n => exact isAbsolute_of_no_slash h.no_slash

theorem parent_mem_moves_iff {p : String} : Component.parent ∈ moves p ↔ ".." ∈ segments p := by
  simp only [moves, steps, List.mem_map, List.mem_filter, Component.ofSegment]
  constructor
  · rintro ⟨s, ⟨hs, -⟩, hparent⟩
    split at hparent
    · rename_i hdotdot
      exact hdotdot ▸ hs
    · cases hparent
  · intro h
    exact ⟨"..", ⟨h, by decide⟩, if_pos rfl⟩

/-- The moves of a path are its steps without those that only say where it begins. -/
theorem filter_components (p : String) :
    ((components p).filter fun c ↦ c != .root && c != .current) = moves p := by
  have hmoves : ((moves p).filter fun c ↦ c != .root && c != .current) = moves p := by
    refine List.filter_eq_self.2 fun c hc ↦ ?_
    have hmove := isMove_of_mem_moves hc
    cases c with
    | root => exact hmove.elim
    | current => exact hmove.elim
    | parent => rfl
    | name n => rfl
  cases h : isAbsolute p with
  | true => rw [components_of_isAbsolute h, List.filter_cons_of_neg (by decide), hmoves]
  | false =>
    rcases components_of_relative h with hc | hc
    · rw [hc, hmoves]
    · rw [hc, List.filter_cons_of_neg (by decide), hmoves]

/-- The path `p` seen from `cwd`, before a slash at its end is put back. -/
def spelt (cwd p : String) : String :=
  ((moves p).map Component.spelling).foldl join (if isAbsolute p then anchor p else cwd)

/-- Making a path absolute changes nothing else about it than where it begins and what stays. -/
theorem absolute?_eq_some {cwd p root : String} (h : absolute? cwd p = some root) :
    root = spelt cwd p ∨
      hasTrailingSlash (spelt cwd p) = false ∧ root = spelt cwd p ++ "/" := by
  have hspelt : (moves p).foldl (fun acc c ↦ join acc c.spelling)
      (if isAbsolute p then anchor p else cwd) = spelt cwd p := by
    rw [spelt, List.foldl_map]
  rw [absolute?] at h
  split at h
  · cases h
  · simp only [filter_components, hspelt, Option.some.injEq] at h
    split at h
    · rename_i hslash
      rw [Bool.and_eq_true, Bool.not_eq_true'] at hslash
      exact Or.inr ⟨hslash.2, h.symm⟩
    · exact Or.inl h.symm

theorem anchor_eq (p : String) :
    anchor p = "/" ∨ anchor p = "//" ∧ isAbsolute p = true := by
  rw [anchor]
  split
  · exact Or.inl rfl
  · rename_i hp
    exact Or.inr ⟨rfl, by simp [isAbsolute, hp]⟩
  · exact Or.inl rfl

theorem isAbsolute_of_mem_spellings {cs : List Component} (h : ∀ c ∈ cs, IsMove c) :
    ∀ s ∈ cs.map Component.spelling, isAbsolute s = false := by
  intro s hs
  obtain ⟨c, hc, rfl⟩ := List.mem_map.1 hs
  exact (h c hc).isAbsolute_spelling

/-- Moves that are put behind a path one by one are the moves that it takes then. -/
theorem moves_foldl_join_spelling {cs : List Component} (h : ∀ c ∈ cs, IsMove c) (p : String) :
    moves ((cs.map Component.spelling).foldl join p) = moves p ++ cs := by
  have hone : ∀ c ∈ cs, moves c.spelling = [c] := by
    intro c hc
    have hmove := h c hc
    cases c with
    | root => exact hmove.elim
    | current => exact hmove.elim
    | parent => decide
    | name n => exact moves_name hmove
  rw [moves_foldl_join (isAbsolute_of_mem_spellings h), List.flatMap_map, List.flatMap_def,
    List.map_congr_left hone, ← List.flatMap_def, List.flatMap_singleton']

/-- **A path that is made absolute says what it says behind the working directory.** -/
theorem spelt_spec {cwd : String} (hcwd : isAbsolute cwd = true) (p : String) :
    isAbsolute (spelt cwd p) = true ∧ moves (spelt cwd p) = moves (join cwd p) := by
  have hmove : ∀ c ∈ moves p, IsMove c := fun c ↦ isMove_of_mem_moves
  rw [spelt, moves_foldl_join_spelling hmove]
  cases h : isAbsolute p with
  | true =>
    have hanchor : isAbsolute (anchor p) = true ∧ moves (anchor p) = [] := by
      rcases anchor_eq p with h | ⟨h, -⟩
      · rw [h]
        decide
      · rw [h]
        decide
    rw [if_pos rfl, join_of_isAbsolute h, hanchor.2, List.nil_append]
    exact ⟨isAbsolute_foldl_join _ hanchor.1, rfl⟩
  | false =>
    rw [if_neg Bool.false_ne_true, moves_join h]
    exact ⟨isAbsolute_foldl_join _ hcwd, rfl⟩

/-- The slash that is kept at its end changes nothing about it. -/
theorem absolute?_spec {cwd p root : String} (hcwd : isAbsolute cwd = true)
    (h : absolute? cwd p = some root) :
    isAbsolute root = true ∧ moves root = moves (join cwd p) := by
  obtain ⟨habs, hmoves⟩ := spelt_spec hcwd p
  rcases absolute?_eq_some h with rfl | ⟨-, rfl⟩
  · exact ⟨habs, hmoves⟩
  · have hne : spelt cwd p ≠ "" := by
      intro hempty
      rw [hempty] at habs
      cases habs
    rw [isAbsolute_append hne, moves_append_slash]
    exact ⟨habs, hmoves⟩

section

variable {cwd : String} (hcwd : IsCanonical cwd) (p : String)

include hcwd

theorem isAbsolute_spelt : isAbsolute (spelt cwd p) = true :=
  (spelt_spec hcwd.isAbsolute p).1

/-- Below a path that was made absolute, a slash at its end makes no difference. -/
theorem foldl_join_absolute? {root : String} (h : absolute? cwd p = some root) {ns : List String}
    (hns : ∀ n ∈ ns, IsName n) (hslash : hasTrailingSlash (ns.foldl join root) = false) :
    ns.foldl join root = ns.foldl join (spelt cwd p) := by
  rcases absolute?_eq_some h with rfl | ⟨hspelt, rfl⟩
  · rfl
  · cases ns with
    | nil =>
      rw [List.foldl_nil, hasTrailingSlash_iff.2 ⟨_, rfl⟩] at hslash
      cases hslash
    | cons n ns =>
      have hrel : isAbsolute n = false :=
        isAbsolute_of_no_slash (hns n List.mem_cons_self).no_slash
      have hne : spelt cwd p ≠ "" := by
        intro hempty
        have habs := isAbsolute_spelt hcwd p
        rw [hempty] at habs
        cases habs
      have hjoin : join (spelt cwd p ++ "/") n = join (spelt cwd p) n := by
        have htrailing : hasTrailingSlash (spelt cwd p ++ "/") = true :=
          hasTrailingSlash_iff.2 ⟨_, rfl⟩
        simp [join, hrel, hspelt, hne, htrailing]
      rw [List.foldl_cons, List.foldl_cons, hjoin]

/-- **Which roots have canonical paths below them**: those that are spelt without `..` and without
two slashes at the beginning. -/
theorem isCanonical_below_iff {ns : List String} (hns : ∀ n ∈ ns, IsName n) :
    IsCanonical (ns.foldl join (spelt cwd p)) ↔ ".." ∉ segments p ∧ anchor p = "/" := by
  have hmove : ∀ c ∈ moves p, IsMove c := fun c hc ↦ isMove_of_mem_moves hc
  have hnames : ∀ n ∈ ns, isAbsolute n = false := fun n hn ↦
    isAbsolute_of_no_slash (hns n hn).no_slash
  constructor
  · intro h
    refine ⟨fun hdotdot ↦ ?_, ?_⟩
    · -- a `..` in the root is still there in every path below it
      refine h.parent_notMem_moves ?_
      rw [moves_foldl_join hnames, spelt, moves_foldl_join_spelling hmove]
      simp [parent_mem_moves_iff.2 hdotdot]
    · -- and so are two slashes at its beginning
      rcases anchor_eq p with hanchor | ⟨hanchor, habs⟩
      · exact hanchor
      · refine (h.not_isPrefix ?_).elim
        have hstart := (isPrefix_foldl_join (isAbsolute_of_mem_spellings hmove) (anchor p)).trans
          (isPrefix_foldl_join hnames _)
        rw [spelt, if_pos habs]
        rw [hanchor] at hstart ⊢
        exact hstart
  · rintro ⟨hdotdot, hanchor⟩
    refine IsCanonical.foldl_join hns (IsCanonical.foldl_join ?_ ?_)
    · intro n hn
      obtain ⟨c, hc, rfl⟩ := List.mem_map.1 hn
      cases c with
      | root => exact (hmove _ hc).elim
      | current => exact (hmove _ hc).elim
      | parent => exact (hdotdot (parent_mem_moves_iff.1 hc)).elim
      | name n => exact hmove _ hc
    · split
      · rw [hanchor]
        exact isCanonical_root
      · exact hcwd

end

end HostOverlay.Path
