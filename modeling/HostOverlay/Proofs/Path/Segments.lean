import HostOverlay.Path.Basic
import HostOverlay.Script.Kind
import Mathlib.Data.List.Induction

/-!
# What a path says, apart from how it is spelt

Two paths that differ in `.`, in doubled slashes or in a slash at the end say the same.  What a path
says is where it begins, `isAbsolute`, and the steps it takes from there, `moves`.  This file shows
how the operations on paths act on the two, so that nothing later has to look at slashes again.

* `segments_slash` cuts a path at a slash, and everything about `segments` comes from it.
* `isMove_of_mem_moves`: a move is `..` or a name, and a name is never empty, `.` or `..`, and has
  no slash in it.
* `isAbsolute_join`, `moves_join`: a joined path takes the moves of the one and then those of the
  other, unless the other begins at the root.
* `parent?_spec`: the directory of a path is reached by all its moves but the last one.
* `endsIn_of_getLast?`: whether a path ends in a text without slashes is a matter of its last
  segment.
-/

set_option autoImplicit false

namespace HostOverlay.Path

/-! ## Names and moves -/

/-- A text that can be the name of an entry in a directory. -/
structure IsName (n : String) : Prop where
  ne_empty : n ≠ ""
  ne_dot : n ≠ "."
  ne_dotdot : n ≠ ".."
  /-- A slash would end the name. -/
  no_slash : '/' ∉ n.toList

instance (n : String) : Decidable (IsName n) :=
  decidable_of_iff (n ≠ "" ∧ n ≠ "." ∧ n ≠ ".." ∧ '/' ∉ n.toList)
    ⟨fun ⟨h₁, h₂, h₃, h₄⟩ ↦ ⟨h₁, h₂, h₃, h₄⟩, fun h ↦ ⟨h.1, h.2, h.3, h.4⟩⟩

/-- A step that goes from one directory to another one: up, or to an entry. -/
def IsMove : Component → Prop
  | .parent => True
  | .name n => IsName n
  | _ => False

/-- The steps of a path from where it begins. -/
def moves (p : String) : List Component := steps (segments p)

theorem isStay_eq_false_iff {s : String} : isStay s = false ↔ s ≠ "" ∧ s ≠ "." := by
  simp [isStay]

theorem IsName.isStay {n : String} (h : IsName n) : isStay n = false :=
  isStay_eq_false_iff.2 ⟨h.ne_empty, h.ne_dot⟩

theorem IsName.ofSegment {n : String} (h : IsName n) : Component.ofSegment n = .name n :=
  if_neg h.ne_dotdot

@[simp] theorem steps_nil : steps [] = [] := rfl

@[simp] theorem steps_append (xs ys : List String) : steps (xs ++ ys) = steps xs ++ steps ys := by
  simp [steps]

theorem steps_cons_stay {s : String} (h : isStay s = true) (ss : List String) :
    steps (s :: ss) = steps ss := by
  simp [steps, h]

theorem steps_cons_move {s : String} (h : isStay s = false) (ss : List String) :
    steps (s :: ss) = Component.ofSegment s :: steps ss := by
  simp [steps, h]

/-- Names are moves as they stand. -/
theorem steps_names {ns : List String} (h : ∀ n ∈ ns, IsName n) :
    steps ns = ns.map Component.name := by
  induction ns with
  | nil => rfl
  | cons n ns ih =>
    have hn := h n List.mem_cons_self
    rw [steps_cons_move hn.isStay, hn.ofSegment, ih fun m hm ↦ h m (List.mem_cons_of_mem _ hm),
      List.map_cons]

/-! ## Segments -/

theorem segments_ne_nil (p : String) : segments p ≠ [] := by
  simp [segments]

/-- No piece of a text that is cut at `a` has `a` in it. -/
private theorem notMem_of_mem_splitOn (a : Char) (t : List Char) : ∀ w ∈ t.splitOn a, a ∉ w := by
  induction t with
  | nil => simp
  | cons x xs ih =>
    rw [List.splitOn_cons_eq_if_modifyHead]
    by_cases hx : x = a
    · simpa [hx] using ih
    · cases hs : xs.splitOn a with
      | nil => simp [hx]
      | cons r rs =>
        rw [hs, List.forall_mem_cons] at ih
        simpa [hx, Ne.symm hx] using ih

theorem no_slash_of_mem_segments {p s : String} (h : s ∈ segments p) : '/' ∉ s.toList := by
  obtain ⟨l, hl, rfl⟩ := List.mem_map.1 h
  simpa using notMem_of_mem_splitOn '/' p.toList l hl

/-- **A slash cuts.** -/
theorem segments_slash (a b : String) : segments (a ++ "/" ++ b) = segments a ++ segments b := by
  have h : (a ++ "/" ++ b).toList = a.toList ++ '/' :: b.toList := by
    simp
  rw [segments, h, List.splitOn_append_cons_self, List.map_append, segments, segments]

theorem segments_of_no_slash {s : String} (h : '/' ∉ s.toList) : segments s = [s] := by
  rw [segments, List.splitOn_eq_singleton h, List.map_singleton, String.ofList_toList]

theorem segments_empty : segments "" = [""] :=
  segments_of_no_slash (by simp)

theorem segments_root_append (p : String) : segments ("/" ++ p) = "" :: segments p := by
  have h := segments_slash "" p
  rwa [segments_empty, String.empty_append] at h

theorem segments_here_append (p : String) : segments ("./" ++ p) = "." :: segments p := by
  have hdot : segments "." = ["."] := segments_of_no_slash (by decide)
  have h := segments_slash "." p
  rwa [hdot] at h

theorem segments_append_slash (p : String) : segments (p ++ "/") = segments p ++ [""] := by
  have h := segments_slash p ""
  rwa [segments_empty, String.append_empty] at h

/-! ## Where a path begins and ends -/

theorem isPrefixOf_toList_iff {start p : String} :
    start.toList.isPrefixOf p.toList = true ↔ ∃ q, p = start ++ q := by
  rw [List.isPrefixOf_iff_prefix]
  constructor
  · rintro ⟨l, hl⟩
    exact ⟨String.ofList l, String.toList_injective (by simpa using hl.symm)⟩
  · rintro ⟨q, rfl⟩
    exact ⟨q.toList, by simp⟩

theorem isAbsolute_iff {p : String} : isAbsolute p = true ↔ ∃ q, p = "/" ++ q := by
  have hslash : "/".toList = ['/'] := by decide
  rw [isAbsolute, ← hslash, isPrefixOf_toList_iff]

theorem hasTrailingSlash_iff {p : String} : hasTrailingSlash p = true ↔ ∃ q, p = q ++ "/" := by
  rw [hasTrailingSlash, List.isSuffixOf_iff_suffix]
  constructor
  · rintro ⟨l, hl⟩
    exact ⟨String.ofList l, String.toList_injective (by simpa using hl.symm)⟩
  · rintro ⟨q, rfl⟩
    exact ⟨q.toList, by simp⟩

/-- What is joined to a path is at its end. -/
theorem getLast?_segments_join (p r : String) :
    (segments (join p r)).getLast? = (segments r).getLast? := by
  have hbehind : ∀ q : String, (segments (q ++ "/" ++ r)).getLast? = (segments r).getLast? := by
    intro q
    rw [segments_slash, List.getLast?_append, List.getLast?_eq_some_getLast (segments_ne_nil r),
      Option.some_or]
  rw [join]
  split
  · rfl
  split
  · rename_i hslash
    rw [Bool.or_eq_true, decide_eq_true_eq] at hslash
    rcases hslash with rfl | hslash
    · rw [String.empty_append]
    · obtain ⟨q, rfl⟩ := hasTrailingSlash_iff.1 hslash
      exact hbehind q
  · exact hbehind p

theorem isAbsolute_root_append (p : String) : isAbsolute ("/" ++ p) = true :=
  isAbsolute_iff.2 ⟨p, rfl⟩

/-- What comes behind a path that is not empty does not change where it begins. -/
theorem isAbsolute_append {p : String} (h : p ≠ "") (q : String) :
    isAbsolute (p ++ q) = isAbsolute p := by
  obtain ⟨c, l, hl⟩ := List.exists_cons_of_ne_nil (String.toList_eq_nil_iff.not.2 h)
  simp [isAbsolute, hl, List.isPrefixOf]

/-- Whether there is a slash at the end is a matter of what comes last. -/
theorem hasTrailingSlash_append (p : String) {q : String} (hq : q ≠ "") :
    hasTrailingSlash (p ++ q) = hasTrailingSlash q := by
  obtain ⟨l, c, hl⟩ := List.eq_nil_or_concat q.toList |>.resolve_left
    (String.toList_eq_nil_iff.not.2 hq)
  rw [hasTrailingSlash, hasTrailingSlash, String.toList_append, hl, List.concat_eq_append,
    ← List.append_assoc, Bool.eq_iff_iff, List.isSuffixOf_iff_suffix, List.isSuffixOf_iff_suffix,
    List.suffix_concat_iff, List.suffix_concat_iff]
  simp [List.singleton_eq_append_iff]

theorem isAbsolute_of_no_slash {p : String} (h : '/' ∉ p.toList) : isAbsolute p = false := by
  rw [Bool.eq_false_iff]
  intro hp
  obtain ⟨q, rfl⟩ := isAbsolute_iff.1 hp
  simp at h

/-- A path begins at the root when its first segment is empty and there is another one. -/
theorem isAbsolute_iff_segments {p : String} :
    isAbsolute p = true ↔ ∃ s rest, segments p = "" :: s :: rest := by
  constructor
  · intro h
    obtain ⟨q, rfl⟩ := isAbsolute_iff.1 h
    obtain ⟨s, rest, hq⟩ := List.exists_cons_of_ne_nil (segments_ne_nil q)
    exact ⟨s, rest, by rw [segments_root_append, hq]⟩
  · rintro ⟨s, rest, h⟩
    rw [← joinSegments_segments p, h, isAbsolute_iff]
    exact ⟨joinSegments (s :: rest), String.toList_injective (by simp [joinSegments])⟩

/-! ## Moves -/

theorem isMove_of_mem_moves {p : String} {c : Component} (h : c ∈ moves p) : IsMove c := by
  obtain ⟨s, hs, rfl⟩ := List.mem_map.1 h
  obtain ⟨hs, hstay⟩ := List.mem_filter.1 hs
  obtain ⟨hempty, hdot⟩ := isStay_eq_false_iff.1 (by simpa using hstay)
  rw [Component.ofSegment]
  split
  · trivial
  · rename_i hdotdot
    exact ⟨hempty, hdot, hdotdot, no_slash_of_mem_segments hs⟩

theorem moves_empty : moves "" = [] := by
  rw [moves, segments_empty, steps_cons_stay rfl, steps_nil]

theorem moves_root_append (p : String) : moves ("/" ++ p) = moves p := by
  rw [moves, segments_root_append, steps_cons_stay rfl, moves]

theorem moves_append_slash (p : String) : moves (p ++ "/") = moves p := by
  rw [moves, segments_append_slash, steps_append, steps_cons_stay rfl, steps_nil, List.append_nil,
    moves]

/-- Segments without slashes make a path that takes their steps. -/
theorem moves_joinSegments {ss : List String} (h : ∀ s ∈ ss, '/' ∉ s.toList) :
    moves (joinSegments ss) = steps ss := by
  by_cases hne : ss = []
  · subst hne
    exact moves_empty
  · rw [moves, segments_joinSegments hne h]

/-- A name is a path of one move. -/
theorem moves_name {n : String} (h : IsName n) : moves n = [.name n] := by
  rw [moves, segments_of_no_slash h.no_slash, steps_cons_move h.isStay, h.ofSegment, steps_nil]

theorem components_of_isAbsolute {p : String} (h : isAbsolute p = true) :
    components p = .root :: moves p := by
  obtain ⟨s, rest, hs⟩ := isAbsolute_iff_segments.1 h
  rw [components, moves, hs, steps_cons_stay rfl]
  exact if_pos h

/-- A relative path may begin with a `.` that says nothing. -/
theorem components_of_relative {p : String} (h : isAbsolute p = false) :
    components p = moves p ∨ components p = .current :: moves p := by
  obtain ⟨s, rest, hs⟩ := List.exists_cons_of_ne_nil (segments_ne_nil p)
  simp only [components, moves, hs, h, Bool.false_eq_true, if_false]
  split
  · rename_i hdot
    exact Or.inr (by rw [hdot, steps_cons_stay rfl])
  · exact Or.inl rfl

/-! ## Joined paths -/

theorem join_of_isAbsolute {b r : String} (h : isAbsolute r = true) : join b r = r :=
  if_pos h

theorem isAbsolute_join (b r : String) :
    isAbsolute (join b r) = (isAbsolute r || isAbsolute b) := by
  cases h : isAbsolute r with
  | true => rw [join_of_isAbsolute h, h, Bool.true_or]
  | false =>
    by_cases hb : b = ""
    · subst hb
      have he : isAbsolute "" = false := isAbsolute_of_no_slash (by simp)
      simp [join, h, he]
    · have hb' : b ++ "/" ≠ "" := by simp [hb]
      simp only [join, h, hb, Bool.false_eq_true, if_false, decide_false, Bool.false_or]
      split
      · exact isAbsolute_append hb r
      · rw [isAbsolute_append hb' r, isAbsolute_append hb]

/-- **A joined path takes the moves of both.** -/
theorem moves_join {r : String} (h : isAbsolute r = false) (b : String) :
    moves (join b r) = moves b ++ moves r := by
  by_cases hb : b = ""
  · subst hb
    simp [join, h, moves_empty]
  · simp only [join, h, hb, Bool.false_eq_true, if_false, decide_false, Bool.false_or]
    split
    · rename_i hslash
      obtain ⟨q, rfl⟩ := hasTrailingSlash_iff.1 hslash
      rw [moves_append_slash, moves, segments_slash, steps_append, moves, moves]
    · rw [moves, segments_slash, steps_append, moves, moves]

/-! ## The directory of a path -/

theorem trimStays_isPrefix (ss : List String) : trimStays ss <+: ss := by
  have h : ss.reverse.dropWhile isStay <:+ ss.reverse := List.dropWhile_suffix _
  rwa [← List.reverse_prefix, List.reverse_reverse] at h

theorem steps_trimStays (ss : List String) : steps (trimStays ss) = steps ss := by
  induction ss using List.reverseRecOn with
  | nil => rfl
  | append_singleton ss s ih =>
    rw [trimStays, List.reverse_append, List.reverse_singleton, List.singleton_append,
      List.dropWhile_cons]
    split
    · rename_i hs
      rw [steps_append, steps_cons_stay hs, steps_nil, List.append_nil]
      exact ih
    · rw [List.reverse_cons, List.reverse_reverse]

/-- What is left of a list of segments ends in a move. -/
theorem steps_dropLast_trimStays {ss : List String} (h : trimStays ss ≠ []) :
    steps (trimStays ss).dropLast = (steps ss).dropLast := by
  have hrev : ss.reverse.dropWhile isStay ≠ [] := by simpa [trimStays] using h
  have hlast : isStay ((trimStays ss).getLast h) = false := by
    have := List.head_dropWhile_not isStay hrev
    simpa [trimStays, List.getLast_reverse] using this
  have hsplit : steps (trimStays ss) =
      steps (trimStays ss).dropLast ++ [Component.ofSegment ((trimStays ss).getLast h)] := by
    conv_lhs => rw [← List.dropLast_concat_getLast h]
    rw [steps_append, steps_cons_move hlast, steps_nil]
  rw [← steps_trimStays ss, hsplit, List.dropLast_concat]

theorem trimStays_dropLast_isPrefix (ss : List String) :
    trimStays (trimStays ss).dropLast <+: ss :=
  (trimStays_isPrefix _).trans ((List.dropLast_prefix _).trans (trimStays_isPrefix _))

theorem steps_trimStays_dropLast {ss : List String} (h : trimStays ss ≠ []) :
    steps (trimStays (trimStays ss).dropLast) = (steps ss).dropLast := by
  rw [steps_trimStays, steps_dropLast_trimStays h]

/-- Segments without slashes make a relative path, unless they begin as an absolute one does. -/
theorem isAbsolute_joinSegments {ss : List String} (h : ∀ s ∈ ss, '/' ∉ s.toList)
    (hhead : ∀ s rest, ss ≠ "" :: s :: rest) : isAbsolute (joinSegments ss) = false := by
  by_cases hne : ss = []
  · subst hne
    exact isAbsolute_of_no_slash (by simp [joinSegments])
  · rw [Bool.eq_false_iff, Ne, isAbsolute_iff_segments, segments_joinSegments hne h]
    rintro ⟨s, rest, hs⟩
    exact hhead s rest hs

/-- **The directory of a path** begins where the path does and is reached by all its moves but the
last one. -/
theorem parent?_spec {p q : String} (h : parent? p = some q) :
    isAbsolute q = isAbsolute p ∧ moves q = (moves p).dropLast := by
  obtain ⟨s, rest, hs⟩ := List.exists_cons_of_ne_nil (segments_ne_nil p)
  have hfree : ∀ x ∈ s :: rest, '/' ∉ x.toList := fun x hx ↦ no_slash_of_mem_segments (hs ▸ hx)
  have hfreeRest : ∀ x ∈ rest, '/' ∉ x.toList := fun x hx ↦ hfree x (List.mem_cons_of_mem _ hx)
  have hfreeDir : ∀ x ∈ trimStays (trimStays rest).dropLast, '/' ∉ x.toList :=
    fun x hx ↦ hfreeRest x ((trimStays_dropLast_isPrefix rest).subset hx)
  simp only [parent?, hs] at h
  split at h
  · -- an absolute path: its first segment is the empty one before the slash
    rename_i habs
    obtain ⟨t, rest', hs'⟩ := isAbsolute_iff_segments.1 habs
    obtain ⟨rfl, -⟩ := List.cons.inj (hs.symm.trans hs')
    split at h
    · cases h
    · rename_i hne
      obtain rfl := Option.some.inj h
      refine ⟨(isAbsolute_root_append _).trans habs.symm, ?_⟩
      rw [moves_root_append, moves_joinSegments hfreeDir, steps_trimStays_dropLast hne, moves, hs,
        steps_cons_stay rfl]
  · rename_i habs
    rw [Bool.not_eq_true] at habs
    rw [habs]
    split at h
    · rename_i hdot
      subst hdot
      have hmoves : moves p = steps rest := by rw [moves, hs, steps_cons_stay rfl]
      split at h
      · rename_i hnil
        obtain rfl := Option.some.inj h
        refine ⟨isAbsolute_of_no_slash (by simp), ?_⟩
        rw [moves_empty, hmoves, ← steps_trimStays, hnil, steps_nil, List.dropLast_nil]
      · rename_i hne
        obtain rfl := Option.some.inj h
        have hfreeDot : ∀ x ∈ "." :: trimStays (trimStays rest).dropLast, '/' ∉ x.toList :=
          List.forall_mem_cons.2 ⟨hfree _ List.mem_cons_self, hfreeDir⟩
        refine ⟨isAbsolute_joinSegments hfreeDot (by simp), ?_⟩
        rw [moves_joinSegments hfreeDot, steps_cons_stay rfl, steps_trimStays_dropLast hne, hmoves]
    · split at h
      · cases h
      · rename_i hne
        obtain rfl := Option.some.inj h
        have hpre := trimStays_dropLast_isPrefix (s :: rest)
        have hfreeAll : ∀ x ∈ trimStays (trimStays (s :: rest)).dropLast, '/' ∉ x.toList :=
          fun x hx ↦ hfree x (hpre.subset hx)
        refine ⟨isAbsolute_joinSegments hfreeAll ?_, ?_⟩
        · intro t rest' hd
          rw [hd] at hpre
          obtain ⟨l, hl⟩ := hpre
          rw [isAbsolute_iff_segments.2 ⟨t, rest' ++ l, by rw [hs, ← hl]; rfl⟩] at habs
          cases habs
        · rw [moves_joinSegments hfreeAll, steps_trimStays_dropLast hne, moves, hs]

/-- A path that goes anywhere has a directory. -/
theorem exists_parent? {p : String} (h : moves p ≠ []) : ∃ q, parent? p = some q := by
  obtain ⟨s, rest, hs⟩ := List.exists_cons_of_ne_nil (segments_ne_nil p)
  rw [moves, hs] at h
  simp only [parent?, hs]
  split
  · rename_i habs
    obtain ⟨t, rest', hs'⟩ := isAbsolute_iff_segments.1 habs
    obtain ⟨rfl, -⟩ := List.cons.inj (hs.symm.trans hs')
    rw [steps_cons_stay rfl, ← steps_trimStays] at h
    split
    · rename_i hnil
      exact absurd (by rw [hnil, steps_nil]) h
    · exact ⟨_, rfl⟩
  · split
    · split
      · exact ⟨_, rfl⟩
      · exact ⟨_, rfl⟩
    · rw [← steps_trimStays] at h
      split
      · rename_i hnil
        exact absurd (by rw [hnil, steps_nil]) h
      · exact ⟨_, rfl⟩

/-- The directory part of a path that goes anywhere. -/
theorem directory_spec {p : String} (h : moves p ≠ []) :
    isAbsolute (directory p) = isAbsolute p ∧ moves (directory p) = (moves p).dropLast := by
  obtain ⟨q, hq⟩ := exists_parent? h
  rw [directory, hq, Option.getD_some]
  exact parent?_spec hq

/-! ## The last segment -/

/-- Segments are put together in one go or in two. -/
theorem joinSegments_append {xs ys : List String} (hx : xs ≠ []) (hy : ys ≠ []) :
    joinSegments (xs ++ ys) = joinSegments xs ++ "/" ++ joinSegments ys := by
  refine String.toList_injective ?_
  simp only [joinSegments, String.toList_append, String.toList_ofList]
  induction xs with
  | nil => exact absurd rfl hx
  | cons x xs ih =>
    rw [List.cons_append, List.map_cons, List.map_cons,
      List.intercalate_cons_of_ne_nil (by simp [hy])]
    by_cases hxs : xs = []
    · subst hxs
      simp
    · rw [ih hxs, List.intercalate_cons_of_ne_nil (by simpa using hxs)]
      simp

theorem joinSegments_singleton (s : String) : joinSegments [s] = s := by
  simp [joinSegments]

/-- A path ends in a text without slashes when its last segment does. -/
theorem endsIn_of_getLast? {p s ending : String} (hs : (segments p).getLast? = some s)
    (hfree : '/' ∉ ending.toList) : endsIn p ending = endsIn s ending := by
  obtain ⟨ss, hss⟩ := List.getLast?_eq_some_iff.1 hs
  have hp : p = joinSegments (ss ++ [s]) := by rw [← hss, joinSegments_segments]
  by_cases hne : ss = []
  · rw [hp, hne, List.nil_append, joinSegments_singleton]
  · rw [hp, joinSegments_append hne (List.cons_ne_nil _ _), joinSegments_singleton, endsIn, endsIn,
      Bool.eq_iff_iff, List.isSuffixOf_iff_suffix, List.isSuffixOf_iff_suffix]
    have hlist : (joinSegments ss ++ "/" ++ s).toList =
        (joinSegments ss).toList ++ '/' :: s.toList := by simp
    rw [hlist]
    constructor
    · intro h
      -- an ending that is longer than the segment reaches over the slash before it
      rcases List.suffix_or_suffix_of_suffix h (List.suffix_append _ ('/' :: s.toList)) with h | h
      · rcases List.suffix_cons_iff.1 h with h | h
        · exact absurd (h ▸ List.mem_cons_self) hfree
        · exact h
      · exact absurd (h.subset List.mem_cons_self) hfree
    · intro h
      exact (h.trans (List.suffix_cons _ _)).trans (List.suffix_append _ _)

/-- Whether a path is foreign is a matter of its last segment. -/
theorem isForeign_of_getLast? {p n : String} (h : (segments p).getLast? = some n) :
    isForeign p = isForeign n :=
  endsIn_of_getLast? h (by decide)

/-- **The last segment of a foreign path is a name.** -/
theorem exists_name_of_isForeign {p : String} (h : isForeign p = true) :
    ∃ n, (segments p).getLast? = some n ∧ IsName n := by
  obtain ⟨n, hlast⟩ : ∃ n, (segments p).getLast? = some n :=
    ⟨_, List.getLast?_eq_some_getLast (segments_ne_nil p)⟩
  rw [isForeign_of_getLast? hlast] at h
  have hne : ∀ m : String, isForeign m = false → n ≠ m := by
    rintro m hm rfl
    rw [h] at hm
    cases hm
  exact ⟨n, hlast, hne _ (by decide), hne _ (by decide), hne _ (by decide),
    no_slash_of_mem_segments (List.mem_of_getLast? hlast)⟩

end HostOverlay.Path
