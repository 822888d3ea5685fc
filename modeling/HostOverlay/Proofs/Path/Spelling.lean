import HostOverlay.Path.Spelling
import HostOverlay.Proofs.Path.Segments
import HostOverlay.Proofs.Text.Bytes

/-!
# What is written, what it stands for, and what is shown

No escape reaches over a slash.  Hence the bytes of a written path, and the text that it is shown
as, are put together from those of its segments.

* `bytes_of_isText`, `shown_of_isText`: a text stands for its own bytes and is shown as it is.
* `size_add_size_le_size_join`: a path with something joined to it has room for both.
* `segments_shown`, `shown_join`: showing goes segment by segment.
* `IsName.shown`: a name is shown as a name.
-/

set_option autoImplicit false

namespace HostOverlay.Path

/-- Nothing in what is written is escaped: it is a text. -/
def IsText (p : String) : Prop := '\x00' ∉ p.toList

instance (p : String) : Decidable (IsText p) :=
  inferInstanceAs (Decidable (_ ∉ _))

/-! ## Letters -/

theorem escape?_of_ne {c : Char} (h : c ≠ '\x00') (d : Char) : escape? c d = none := by
  simp [escape?, h]

/-- A slash is no part of an escape. -/
theorem escape?_slash (c : Char) : escape? c '/' = none := by
  simp [escape?]

theorem letters_cons {c : Char} (h : c ≠ '\x00') (cs : List Char) :
    letters (c :: cs) = .char c :: letters cs := by
  cases cs with
  | nil => rfl
  | cons d rest => rw [letters, escape?_of_ne h]

theorem letters_slash (xs ys : List Char) :
    letters (xs ++ '/' :: ys) = letters xs ++ .char '/' :: letters ys := by
  have hslash : letters ('/' :: ys) = .char '/' :: letters ys := letters_cons (by decide) ys
  fun_induction letters xs with
  | case1 => exact hslash
  | case2 c =>
    rw [List.singleton_append, letters, escape?_slash, hslash]
    rfl
  | case3 c d rest b hescape ih =>
    rw [List.cons_append, List.cons_append, letters, hescape, ih]
    rfl
  | case4 c d rest hescape ih =>
    rw [List.cons_append, List.cons_append, letters, hescape]
    rw [List.cons_append] at ih
    rw [ih]
    rfl

theorem letters_of_isText {cs : List Char} (h : '\x00' ∉ cs) : letters cs = cs.map .char := by
  induction cs with
  | nil => rfl
  | cons c cs ih =>
    rw [List.mem_cons, not_or] at h
    rw [letters_cons (Ne.symm h.1), ih h.2, List.map_cons]

/-- Where no letter is a byte, the letters are what is written. -/
theorem eq_of_letters_eq_map {cs ds : List Char} (h : letters cs = ds.map .char) : cs = ds := by
  fun_induction letters cs generalizing ds with
  | case1 => exact (List.map_eq_nil_iff.1 h.symm).symm
  | case2 c =>
    obtain ⟨d, rfl, hd⟩ := List.map_eq_singleton_iff.1 h.symm
    rw [Letter.char.inj hd]
  | case3 c d rest b hescape ih =>
    obtain ⟨x, xs, rfl, hx, -⟩ := List.map_eq_cons_iff.1 h.symm
    cases hx
  | case4 c d rest hescape ih =>
    obtain ⟨x, xs, rfl, hx, hxs⟩ := List.map_eq_cons_iff.1 h.symm
    rw [Letter.char.inj hx, ih hxs.symm]

/-! ## Bytes -/

theorem bytes_of_isText {p : String} (h : IsText p) : bytes p = HostOverlay.bytes p := by
  rw [bytes, letters_of_isText h, List.flatMap_map, bytes_eq_flatMap]
  rfl

theorem size_of_isText {p : String} (h : IsText p) : size p = p.utf8ByteSize := by
  rw [size, bytes_of_isText h, length_bytes]

theorem bytes_slash (a b : String) : bytes (a ++ "/" ++ b) = bytes a ++ 47 :: bytes b := by
  have h : (a ++ "/" ++ b).toList = a.toList ++ '/' :: b.toList := by
    simp
  rw [bytes, h, letters_slash, List.flatMap_append, List.flatMap_cons]
  rfl

theorem size_slash (a b : String) : size (a ++ "/" ++ b) = size a + 1 + size b := by
  rw [size, bytes_slash, List.length_append, List.length_cons, size, size]
  omega

theorem size_empty : size "" = 0 := rfl

theorem size_append_slash (p : String) : size (p ++ "/") = size p + 1 := by
  have h := size_slash p ""
  rwa [String.append_empty] at h

/-- **A path with something joined to it** has room for both. -/
theorem size_add_size_le_size_join (p : String) {n : String} (hn : isAbsolute n = false) :
    size p + size n ≤ size (join p n) := by
  rw [join, if_neg (by simp [hn])]
  split
  · rename_i hslash
    rw [Bool.or_eq_true, decide_eq_true_eq] at hslash
    rcases hslash with rfl | hslash
    · rw [String.empty_append, size_empty, Nat.zero_add]
    · obtain ⟨q, rfl⟩ := hasTrailingSlash_iff.1 hslash
      rw [size_slash, size_append_slash]
  · rw [size_slash]
    omega

theorem size_le_size_join (p : String) {n : String} (hn : isAbsolute n = false) :
    size p ≤ size (join p n) :=
  Nat.le_trans (Nat.le_add_right _ _) (size_add_size_le_size_join p hn)

theorem size_le_size_foldl_join {ns : List String} (hns : ∀ n ∈ ns, isAbsolute n = false)
    (p : String) : size p ≤ size (ns.foldl join p) := by
  induction ns generalizing p with
  | nil => exact Nat.le_refl _
  | cons n ns ih =>
    rw [List.forall_mem_cons] at hns
    exact Nat.le_trans (size_le_size_join p hns.1) (ih hns.2 _)

/-! ## Texts -/

theorem isText_append {a b : String} : IsText (a ++ b) ↔ IsText a ∧ IsText b := by
  simp [IsText]

/-- Paths that are texts make a text when they are joined. -/
theorem IsText.join {p n : String} (hp : IsText p) (hn : IsText n) : IsText (join p n) := by
  rw [Path.join]
  split
  · exact hn
  · split
    · exact isText_append.2 ⟨hp, hn⟩
    · exact isText_append.2 ⟨isText_append.2 ⟨hp, by decide⟩, hn⟩

theorem IsText.foldl_join {ns : List String} (hns : ∀ n ∈ ns, IsText n) {p : String}
    (hp : IsText p) : IsText (ns.foldl Path.join p) := by
  induction ns generalizing p with
  | nil => exact hp
  | cons n ns ih =>
    rw [List.forall_mem_cons] at hns
    exact ih hns.2 (hp.join hns.1)

/-! ## Showing -/

theorem replaced_map_char (cs : List Char) : ∀ expected,
    replaced expected (cs.map .char) = cs := by
  induction cs with
  | nil => exact fun _ ↦ by rw [List.map_nil, replaced]
  | cons c cs ih => exact fun _ ↦ by rw [List.map_cons, replaced, ih]

theorem shown_of_isText {p : String} (h : IsText p) : shown p = p := by
  rw [shown, letters_of_isText h, replaced_map_char, String.ofList_toList]

theorem map_shown_of_isText {ps : List String} (h : ∀ p ∈ ps, IsText p) : ps.map shown = ps := by
  rw [List.map_congr_left fun p hp ↦ shown_of_isText (h p hp), List.map_id']

/-- A character ends whatever stands before it. -/
theorem replaced_append_char (c : Char) (xs ys : List Letter) (expected : List (UInt8 × UInt8)) :
    replaced expected (xs ++ .char c :: ys) = replaced expected xs ++ c :: replaced [] ys := by
  fun_induction replaced expected xs with
  | case1 expected => rw [List.nil_append, List.nil_append, replaced]
  | case2 expected d rest ih => rw [List.cons_append, replaced, ih, List.cons_append]
  | case3 b rest ih => rw [List.cons_append, replaced, ih, List.cons_append]
  | case4 low high expected b rest hrange ih =>
    rw [List.cons_append, replaced, if_pos hrange, ih]
  | case5 low high expected b rest hrange ih =>
    rw [List.cons_append, replaced, if_neg hrange, ih, List.cons_append]

/-- Where no replacement character is shown, there is nothing to be replaced. -/
theorem eq_map_of_replaced {ls : List Letter} (h : '\uFFFD' ∉ replaced [] ls) :
    ls = (replaced [] ls).map .char := by
  induction ls with
  | nil => rw [replaced, List.map_nil]
  | cons l ls ih =>
    cases l with
    | char c =>
      rw [replaced, List.mem_cons, not_or] at h
      rw [replaced, List.map_cons, ← ih h.2]
    | byte b => simp [replaced] at h

theorem shown_eq_self {p : String} (h : '\uFFFD' ∉ (shown p).toList) : shown p = p := by
  rw [shown, String.toList_ofList] at h
  rw [shown, ← eq_of_letters_eq_map (eq_map_of_replaced h), String.ofList_toList]

/-- A text without replacement characters is the only thing that is shown as it. -/
theorem shown_eq_iff {p q : String} (hp : '\uFFFD' ∉ p.toList) (htext : IsText p) :
    shown q = p ↔ q = p := by
  constructor
  · rintro rfl
    exact (shown_eq_self hp).symm
  · rintro rfl
    exact shown_of_isText htext

/-- A character that is shown is written, unless it is the replacement character. -/
theorem mem_of_mem_replaced {c : Char} (hc : c ≠ '\uFFFD') {ls : List Letter} :
    ∀ {expected : List (UInt8 × UInt8)}, c ∈ replaced expected ls → .char c ∈ ls := by
  intro expected h
  fun_induction replaced expected ls with
  | case1 => cases h
  | case2 expected d rest ih =>
    obtain rfl | h := List.mem_cons.1 h
    · exact List.mem_cons_self
    · exact List.mem_cons_of_mem _ (ih h)
  | case3 b rest ih => exact List.mem_cons_of_mem _ (ih ((List.mem_cons.1 h).resolve_left hc))
  | case4 low high expected b rest hrange ih => exact List.mem_cons_of_mem _ (ih h)
  | case5 low high expected b rest hrange ih =>
    exact List.mem_cons_of_mem _ (ih ((List.mem_cons.1 h).resolve_left hc))

theorem mem_of_char_mem_letters {cs : List Char} {c : Char} (h : .char c ∈ letters cs) :
    c ∈ cs := by
  fun_induction letters cs with
  | case1 => cases h
  | case2 d => simpa using h
  | case3 d e rest b hescape ih =>
    have h := ih (by simpa using h)
    exact List.mem_cons_of_mem _ (List.mem_cons_of_mem _ h)
  | case4 d e rest hescape ih =>
    obtain heq | h := List.mem_cons.1 h
    · exact Letter.char.inj heq ▸ List.mem_cons_self
    · exact List.mem_cons_of_mem _ (ih h)

/-! ## Showing a path -/

theorem shown_slash (a b : String) : shown (a ++ "/" ++ b) = shown a ++ "/" ++ shown b := by
  have h : (a ++ "/" ++ b).toList = a.toList ++ '/' :: b.toList := by
    simp
  refine String.toList_injective ?_
  rw [shown, h, letters_slash, String.toList_ofList, replaced_append_char]
  simp [shown]

theorem shown_empty : shown "" = "" := rfl

theorem shown_eq_empty_iff {p : String} : shown p = "" ↔ p = "" :=
  shown_eq_iff (by simp) (by decide)

/-- What is shown has no more slashes than what is written. -/
theorem no_slash_shown {p : String} (h : '/' ∉ p.toList) : '/' ∉ (shown p).toList :=
  fun hslash ↦ h (mem_of_char_mem_letters
    (mem_of_mem_replaced (by decide) (by rwa [shown, String.toList_ofList] at hslash)))

theorem shown_joinSegments (ss : List String) :
    shown (joinSegments ss) = joinSegments (ss.map shown) := by
  induction ss with
  | nil => rfl
  | cons s ss ih =>
    by_cases hss : ss = []
    · subst hss
      rw [List.map_cons, List.map_nil, joinSegments_singleton, joinSegments_singleton]
    · rw [← List.singleton_append, joinSegments_append (by simp) hss, joinSegments_singleton,
        shown_slash, ih, List.map_append, List.map_singleton,
        joinSegments_append (by simp) (by simpa using hss), joinSegments_singleton]

/-- **A path is shown segment by segment.** -/
theorem segments_shown (p : String) : segments (shown p) = (segments p).map shown := by
  conv_lhs => rw [← joinSegments_segments p, shown_joinSegments]
  refine segments_joinSegments (by simpa using segments_ne_nil p) ?_
  intro s hs
  obtain ⟨t, ht, rfl⟩ := List.mem_map.1 hs
  exact no_slash_shown (no_slash_of_mem_segments ht)

theorem IsName.shown {n : String} (h : IsName n) : IsName (shown n) where
  ne_empty := fun he ↦ h.ne_empty (shown_eq_empty_iff.1 he)
  ne_dot := fun he ↦ h.ne_dot ((shown_eq_iff (by decide) (by decide)).1 he)
  ne_dotdot := fun he ↦ h.ne_dotdot ((shown_eq_iff (by decide) (by decide)).1 he)
  no_slash := no_slash_shown h.no_slash

/-- A slash at the end is shown, and no other. -/
theorem hasTrailingSlash_shown (p : String) : hasTrailingSlash (shown p) = hasTrailingSlash p := by
  rw [Bool.eq_iff_iff]
  constructor
  · intro h
    obtain ⟨q, hq⟩ := hasTrailingSlash_iff.1 h
    have hsegments : (segments p).map Path.shown = segments q ++ [""] := by
      rw [← segments_shown, hq, segments_append_slash]
    obtain ⟨ss, last, hp, hss, hlast⟩ := List.map_eq_append_iff.1 hsegments
    obtain ⟨s, rfl, hs⟩ := List.map_eq_singleton_iff.1 hlast
    obtain rfl := shown_eq_empty_iff.1 hs
    have hne : ss ≠ [] := by
      rintro rfl
      exact segments_ne_nil q hss.symm
    rw [hasTrailingSlash_iff]
    exact ⟨joinSegments ss, by
      rw [← joinSegments_segments p, hp, joinSegments_append hne (List.cons_ne_nil _ _),
        joinSegments_singleton, String.append_empty]⟩
  · intro h
    obtain ⟨q, rfl⟩ := hasTrailingSlash_iff.1 h
    have hshown := shown_slash q ""
    rw [shown_empty, String.append_empty, String.append_empty] at hshown
    rw [hshown]
    exact hasTrailingSlash_iff.2 ⟨_, rfl⟩

/-- **A name below a path** is shown below what the path is shown as. -/
theorem shown_join (p : String) {n : String} (hn : '/' ∉ n.toList) :
    shown (join p n) = join (shown p) (shown n) := by
  have hrel : isAbsolute n = false := isAbsolute_of_no_slash hn
  have hrel' : isAbsolute (shown n) = false := isAbsolute_of_no_slash (no_slash_shown hn)
  simp only [join, hrel, hrel', Bool.false_eq_true, if_false, hasTrailingSlash_shown,
    shown_eq_empty_iff]
  split
  · rename_i hslash
    rw [Bool.or_eq_true, decide_eq_true_eq] at hslash
    rcases hslash with rfl | hslash
    · rw [String.empty_append, shown_empty, String.empty_append]
    · obtain ⟨q, rfl⟩ := hasTrailingSlash_iff.1 hslash
      have hq := shown_slash q ""
      rw [shown_empty, String.append_empty, String.append_empty] at hq
      rw [shown_slash, hq]
  · exact shown_slash p n

theorem shown_foldl_join {ns : List String} (hns : ∀ n ∈ ns, IsName n) (p : String) :
    shown (ns.foldl join p) = (ns.map shown).foldl join (shown p) := by
  induction ns generalizing p with
  | nil => rfl
  | cons n ns ih =>
    rw [List.forall_mem_cons] at hns
    rw [List.foldl_cons, ih hns.2, List.map_cons, List.foldl_cons, shown_join p hns.1.no_slash]

/-- A byte that begins no character is shown as a replacement character. -/
example : bytes "\x00ÿ.ts" = [0xFF, 0x2E, 0x74, 0x73] ∧ shown "\x00ÿ.ts" = "\uFFFD.ts" := by
  decide

end HostOverlay.Path
