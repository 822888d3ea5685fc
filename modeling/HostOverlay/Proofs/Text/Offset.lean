import HostOverlay.Proofs.Text.Bytes

/-!
# Places in a text

An offset counts bytes, so only some offsets stand between two characters.  `IsBoundary` says which
ones, and `CharAt` which character begins at one of them.  Both speak of the text alone; what the
library computes about offsets is compared with them here.

* `isBoundary_iff`: a boundary cuts the characters of a text in two.
* `splitAtByte_eq_some_iff`: the cut that the library makes is that one.
* `exists_between`: of two boundaries, the lesser one comes first.  From it comes everything about
  several places in one text.
* `slice_middle`: the text between two boundaries.
-/

set_option autoImplicit false

namespace HostOverlay.Text

/-! ## The size of a text -/

theorem byteSize_eq (cs : List Char) : byteSize cs = (String.ofList cs).utf8ByteSize := by
  induction cs with
  | nil => rfl
  | cons c cs ih =>
    rw [String.ofList_cons, String.utf8ByteSize_append, String.utf8ByteSize_singleton,
      byteSize_cons, ih]

theorem byteSize_toList (s : String) : byteSize s.toList = s.utf8ByteSize := by
  rw [byteSize_eq, String.ofList_toList]

/-- Only an empty row of characters takes no bytes. -/
theorem byteSize_eq_zero_iff {cs : List Char} : byteSize cs = 0 ↔ cs = [] := by
  cases cs with
  | nil => simp
  | cons c cs =>
    have hpos := c.utf8Size_pos
    simp only [byteSize_cons, reduceCtorEq, iff_false]
    omega

theorem byteSize_reverse (cs : List Char) : byteSize cs.reverse = byteSize cs := by
  induction cs with
  | nil => rfl
  | cons c cs ih =>
    rw [List.reverse_cons, byteSize_append, ih, byteSize_cons, byteSize_cons, byteSize_nil]
    omega

theorem byteSize_pos_iff {cs : List Char} : 0 < byteSize cs ↔ cs ≠ [] := by
  rw [Nat.pos_iff_ne_zero, Ne, byteSize_eq_zero_iff]

theorem bytes_ofList_append (as bs : List Char) :
    bytes (String.ofList (as ++ bs)) = bytes (String.ofList as) ++ bytes (String.ofList bs) := by
  rw [String.ofList_append, bytes_append]

theorem length_bytes_ofList (cs : List Char) : (bytes (String.ofList cs)).length = byteSize cs := by
  rw [length_bytes, byteSize_eq]

/-! ## Boundaries -/

/-- The offset `n` stands between two characters of `s`, or at one of its ends. -/
def IsBoundary (s : String) (n : Nat) : Prop :=
  (⟨n⟩ : String.Pos.Raw).IsValid s

instance (s : String) (n : Nat) : Decidable (IsBoundary s n) :=
  inferInstanceAs (Decidable (String.Pos.Raw.IsValid s ⟨n⟩))

/-- The character `c` begins at the offset `n` of `s`. -/
def CharAt (s : String) (n : Nat) (c : Char) : Prop :=
  ∃ before after : String, s = before ++ String.singleton c ++ after ∧ before.utf8ByteSize = n

/-- The character `c` ends at the offset `n` of `s`. -/
def CharBefore (s : String) (n : Nat) (c : Char) : Prop :=
  ∃ m, CharAt s m c ∧ m + c.utf8Size = n

/-- **A boundary cuts the characters in two.** -/
theorem isBoundary_iff {s : String} {n : Nat} :
    IsBoundary s n ↔ ∃ before after, s.toList = before ++ after ∧ byteSize before = n := by
  rw [IsBoundary, String.Pos.Raw.isValid_iff_exists_append]
  constructor
  · rintro ⟨before, after, rfl, hn⟩
    refine ⟨before.toList, after.toList, String.toList_append, ?_⟩
    rw [byteSize_toList]
    exact (congrArg String.Pos.Raw.byteIdx hn).symm
  · rintro ⟨before, after, hs, rfl⟩
    refine ⟨String.ofList before, String.ofList after, ?_, ?_⟩
    · rw [← String.ofList_append, ← hs, String.ofList_toList]
    · rw [byteSize_eq]
      rfl

theorem charAt_iff {s : String} {n : Nat} {c : Char} :
    CharAt s n c ↔ ∃ before after, s.toList = before ++ c :: after ∧ byteSize before = n := by
  constructor
  · rintro ⟨before, after, rfl, rfl⟩
    exact ⟨before.toList, after.toList, by simp, byteSize_toList before⟩
  · rintro ⟨before, after, hs, rfl⟩
    refine ⟨String.ofList before, String.ofList after, String.toList_injective ?_,
      (byteSize_eq before).symm⟩
    simp [hs]

theorem IsBoundary.le_utf8ByteSize {s : String} {n : Nat} (h : IsBoundary s n) :
    n ≤ s.utf8ByteSize :=
  String.Pos.Raw.IsValid.le_utf8ByteSize h

/-- **The library cuts where the boundary is.** -/
theorem splitAtByte_eq_some_iff {cs before after : List Char} {n : Nat} :
    splitAtByte cs n = some (before, after) ↔ cs = before ++ after ∧ byteSize before = n := by
  constructor
  · intro h
    obtain ⟨hcs, hn⟩ := splitAtByte_eq_some h
    exact ⟨hcs.symm, hn⟩
  · rintro ⟨rfl, rfl⟩
    exact splitAtByte_append before after

/-- It makes no cut anywhere else. -/
theorem splitAtByte_eq_none_iff {s : String} {n : Nat} :
    splitAtByte s.toList n = none ↔ ¬ IsBoundary s n := by
  rw [isBoundary_iff, Option.eq_none_iff_forall_ne_some]
  simp only [ne_eq, Prod.forall, splitAtByte_eq_some_iff, not_exists]

/-! ## Two places in one text -/

/-- **What lies between two boundaries.** -/
theorem exists_between {as bs cs ds : List Char} (h : as ++ bs = cs ++ ds)
    (hle : byteSize as ≤ byteSize cs) : ∃ ms, cs = as ++ ms ∧ bs = ms ++ ds := by
  rcases List.append_eq_append_iff.1 h with ⟨ms, hcs, hbs⟩ | ⟨ms, has, hds⟩
  · exact ⟨ms, hcs, hbs⟩
  · -- the second one comes first, so there is nothing between them
    subst has
    rw [byteSize_append] at hle
    obtain rfl : ms = [] := byteSize_eq_zero_iff.1 (by omega)
    exact ⟨[], by simp, by simpa using hds.symm⟩

theorem append_inj_of_byteSize_eq {as bs cs ds : List Char} (h : as ++ bs = cs ++ ds)
    (heq : byteSize as = byteSize cs) : as = cs ∧ bs = ds := by
  obtain ⟨ms, rfl, rfl⟩ := exists_between h heq.le
  rw [byteSize_append] at heq
  obtain rfl : ms = [] := byteSize_eq_zero_iff.1 (by omega)
  exact ⟨(List.append_nil as).symm, rfl⟩

section

variable {s : String} {as bs : List Char} (h : s.toList = as ++ bs) {c : Char}

include h

theorem isBoundary_of_append : IsBoundary s (byteSize as) :=
  isBoundary_iff.2 ⟨as, bs, h, rfl⟩

/-- The character behind a boundary. -/
theorem charAt_iff_head? : CharAt s (byteSize as) c ↔ bs.head? = some c := by
  rw [charAt_iff, List.head?_eq_some_iff]
  constructor
  · rintro ⟨before, after, hs, hsize⟩
    exact ⟨after, (append_inj_of_byteSize_eq (h.symm.trans hs) hsize.symm).2⟩
  · rintro ⟨after, rfl⟩
    exact ⟨as, after, h, rfl⟩

/-- The character before a boundary. -/
theorem charBefore_iff_getLast? : CharBefore s (byteSize as) c ↔ as.getLast? = some c := by
  rw [CharBefore, List.getLast?_eq_some_iff]
  constructor
  · rintro ⟨m, hchar, hm⟩
    obtain ⟨before, after, hs, rfl⟩ := charAt_iff.1 hchar
    have hsplit : as ++ bs = (before ++ [c]) ++ after := by
      rw [← h, hs, List.append_assoc, List.singleton_append]
    exact ⟨before, (append_inj_of_byteSize_eq hsplit (by simpa using hm.symm)).1⟩
  · rintro ⟨before, rfl⟩
    refine ⟨byteSize before, charAt_iff.2 ⟨before, bs, ?_, rfl⟩, by simp⟩
    rw [h, List.append_assoc, List.singleton_append]

end

/-- Where the text between two boundaries stands. -/
theorem slice_middle {s : String} {as ms bs : List Char} (h : s.toList = as ++ ms ++ bs) :
    slice s (byteSize as) (byteSize as + byteSize ms) = String.ofList ms := by
  have hcut : splitAtByte (as ++ (ms ++ bs)) (byteSize as) = some (as, ms ++ bs) :=
    splitAtByte_append as (ms ++ bs)
  have hstop : min (byteSize as + byteSize ms) (byteSize (as ++ (ms ++ bs))) =
      byteSize as + byteSize ms := by
    simp only [byteSize_append]
    omega
  have hstart : min (byteSize as) (byteSize as + byteSize ms) = byteSize as := by omega
  simp only [slice, h, List.append_assoc, hstop, hstart, hcut, Nat.add_sub_cancel_left,
    splitAtByte_append]

/-- Its bytes are those between the two offsets. -/
theorem bytes_middle {s : String} {as ms bs : List Char} (h : s.toList = as ++ ms ++ bs) :
    bytes (String.ofList ms) = (bytes s).extract (byteSize as) (byteSize as + byteSize ms) := by
  have hs : bytes s = bytes (String.ofList as) ++ (bytes (String.ofList ms) ++
      bytes (String.ofList bs)) := by
    rw [← bytes_ofList_append, ← bytes_ofList_append, ← List.append_assoc, ← h,
      String.ofList_toList]
  rw [hs, List.extract_eq_take_drop, ← length_bytes_ofList as, List.drop_left,
    Nat.add_sub_cancel_left, ← length_bytes_ofList ms, List.take_left]

end HostOverlay.Text
