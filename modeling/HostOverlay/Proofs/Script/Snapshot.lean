import HostOverlay.Proofs.Text.Offset
import HostOverlay.Script.Snapshot

/-!
# Parts of a snapshot

A checker asks for a part of a snapshot by two offsets, and any two will do: they may lie behind the
end, stand the wrong way round, or cut a character.  `Snapshot.part` first clamps them and then
gives nothing unless both stand at a boundary.

* `slice_of_boundaries`, `slice_of_cut_character`: the two cases, by the bytes of the text.
* `slice_append_slice`: parts that follow one another make up the whole.  Once the offsets are
  clamped, this is a fact about ranges of bytes.
* `Snapshot.part_spec`: both, for a snapshot.
-/

set_option autoImplicit false

namespace HostOverlay.Text

variable {s : String}

/-! ## Boundaries in order -/

theorem isBoundary_utf8ByteSize (s : String) : IsBoundary s s.utf8ByteSize :=
  String.Pos.Raw.isValid_rawEndPos

/-- A place that stands at a boundary or behind the end is clamped to a boundary. -/
theorem isBoundary_min {n : Nat} (h : IsBoundary s n ∨ s.utf8ByteSize ≤ n) :
    IsBoundary s (min n s.utf8ByteSize) := by
  rcases h with h | h
  · rwa [Nat.min_eq_left h.le_utf8ByteSize]
  · rw [Nat.min_eq_right h]
    exact isBoundary_utf8ByteSize s

/-- Two boundaries cut the characters in three. -/
theorem exists_cut {first last : Nat} (hfirst : IsBoundary s first) (hlast : IsBoundary s last)
    (hle : first ≤ last) :
    ∃ before middle after, s.toList = before ++ middle ++ after ∧ byteSize before = first ∧
      byteSize before + byteSize middle = last := by
  obtain ⟨before, rest, hs, rfl⟩ := isBoundary_iff.1 hfirst
  obtain ⟨upto, after, hs', rfl⟩ := isBoundary_iff.1 hlast
  obtain ⟨middle, rfl, rfl⟩ := exists_between (hs.symm.trans hs') hle
  exact ⟨before, middle, after, by rw [hs, List.append_assoc], rfl, (byteSize_append _ _).symm⟩

/-! ## Slices -/

/-- Clamping is all that a slice does with offsets that are out of range. -/
theorem slice_clamp (s : String) (start stop : Nat) :
    slice s start stop =
      slice s (min start (min stop s.utf8ByteSize)) (min stop s.utf8ByteSize) := by
  have hstop : min (min stop s.utf8ByteSize) s.utf8ByteSize = min stop s.utf8ByteSize := by omega
  have hstart : min (min start (min stop s.utf8ByteSize)) (min stop s.utf8ByteSize) =
      min start (min stop s.utf8ByteSize) := by omega
  simp only [slice, byteSize_toList, hstop, hstart]

/-- **Between two boundaries, a slice has the bytes of the text.** -/
theorem slice_of_boundaries {first last : Nat} (hfirst : IsBoundary s first)
    (hlast : IsBoundary s last) (hle : first ≤ last) :
    (slice s first last).toByteArray = s.toByteArray.extract first last := by
  obtain ⟨before, middle, after, hs, rfl, rfl⟩ := exists_cut hfirst hlast hle
  rw [slice_middle hs]
  apply ByteArray.ext
  rw [ByteArray.data_extract, ← Array.toList_inj, Array.toList_extract]
  exact bytes_middle hs

/-- **A slice that would cut a character is empty.** -/
theorem slice_of_cut_character {first last : Nat} (hle : first ≤ last)
    (hlast : last ≤ s.utf8ByteSize) (hcut : ¬ (IsBoundary s first ∧ IsBoundary s last)) :
    slice s first last = "" := by
  simp only [slice, byteSize_toList, Nat.min_eq_left hlast, Nat.min_eq_left hle]
  cases hbefore : splitAtByte s.toList first with
  | none => rfl
  | some cut =>
    obtain ⟨before, rest⟩ := cut
    obtain ⟨hs, rfl⟩ := splitAtByte_eq_some_iff.1 hbefore
    cases hmiddle : splitAtByte rest (last - byteSize before) with
    | none => simp only [hmiddle]
    | some cut =>
      -- the two cuts that were made are boundaries
      obtain ⟨middle, after⟩ := cut
      obtain ⟨rfl, hsize⟩ := splitAtByte_eq_some_iff.1 hmiddle
      refine absurd ⟨isBoundary_of_append hs, ?_⟩ hcut
      rw [← List.append_assoc] at hs
      have hboundary := isBoundary_of_append hs
      rwa [byteSize_append, hsize, Nat.add_sub_cancel' hle] at hboundary

/-- A slice is a part of the text. -/
theorem exists_eq_append_slice (s : String) (start stop : Nat) :
    ∃ before after, s = before ++ slice s start stop ++ after := by
  rw [slice_clamp]
  have hle : min start (min stop s.utf8ByteSize) ≤ min stop s.utf8ByteSize := Nat.min_le_right _ _
  have hlast : min stop s.utf8ByteSize ≤ s.utf8ByteSize := Nat.min_le_right _ _
  generalize min start (min stop s.utf8ByteSize) = first at *
  generalize min stop s.utf8ByteSize = last at *
  by_cases hcut : IsBoundary s first ∧ IsBoundary s last
  · obtain ⟨before, middle, after, hs, rfl, rfl⟩ := exists_cut hcut.1 hcut.2 hle
    refine ⟨String.ofList before, String.ofList after, ?_⟩
    rw [slice_middle hs, ← String.ofList_append, ← String.ofList_append, ← hs, String.ofList_toList]
  · exact ⟨"", s, by rw [slice_of_cut_character hle hlast hcut]; simp⟩

/-- **Slices that follow one another make up the slice of the whole range.** -/
theorem slice_append_slice {a b c : Nat} (hab : a ≤ b) (hbc : b ≤ c)
    (ha : IsBoundary s a ∨ s.utf8ByteSize ≤ a) (hb : IsBoundary s b ∨ s.utf8ByteSize ≤ b)
    (hc : IsBoundary s c ∨ s.utf8ByteSize ≤ c) : slice s a b ++ slice s b c = slice s a c := by
  -- where the offsets are in order, each is clamped to the text alone
  have hclamp {m n : Nat} (hle : m ≤ n) :
      slice s m n = slice s (min m s.utf8ByteSize) (min n s.utf8ByteSize) := by
    rw [slice_clamp, show min m (min n s.utf8ByteSize) = min m s.utf8ByteSize by omega]
  have hleft : min a s.utf8ByteSize ≤ min b s.utf8ByteSize := by omega
  have hright : min b s.utf8ByteSize ≤ min c s.utf8ByteSize := by omega
  rw [hclamp hab, hclamp hbc, hclamp (hab.trans hbc), ← String.toByteArray_inj,
    String.toByteArray_append,
    slice_of_boundaries (isBoundary_min ha) (isBoundary_min hb) hleft,
    slice_of_boundaries (isBoundary_min hb) (isBoundary_min hc) hright,
    slice_of_boundaries (isBoundary_min ha) (isBoundary_min hc) (hleft.trans hright),
    ByteArray.extract_append_extract, Nat.min_eq_left hleft, Nat.max_eq_right hright]

end HostOverlay.Text

namespace HostOverlay.Snapshot

open Text

/-- **What a part of a snapshot is.**  Any two offsets give a part.  Its bytes are those of the text
between the clamped offsets when both are boundaries, and there are none otherwise; so it is valid
UTF-8 and stands in the text.  Parts that follow one another make up the part from the first offset
to the last, as long as none of the offsets cuts a character. -/
theorem part_spec (t : Snapshot) :
    (∀ start stop : Nat,
      let last := min stop t.text.utf8ByteSize
      let first := min start last
      (t.part start stop).toByteArray =
          (if IsBoundary t.text first ∧ IsBoundary t.text last then
            t.text.toByteArray.extract first last
          else ByteArray.empty) ∧
        (t.part start stop).toByteArray.IsValidUTF8 ∧
        ∃ before after, t.text = before ++ t.part start stop ++ after) ∧
      ∀ a b c : Nat, a ≤ b → b ≤ c →
        (∀ n ∈ [a, b, c], IsBoundary t.text n ∨ t.text.utf8ByteSize ≤ n) →
        t.part a b ++ t.part b c = t.part a c := by
  refine ⟨fun start stop ↦ ?_, fun a b c hab hbc h ↦ ?_⟩
  · intro last first
    refine ⟨?_, (t.part start stop).isValidUTF8, exists_eq_append_slice t.text start stop⟩
    have hle : first ≤ last := Nat.min_le_right _ _
    have hlast : last ≤ t.text.utf8ByteSize := Nat.min_le_right _ _
    rw [part, slice_clamp]
    split
    · rename_i hboundary
      exact slice_of_boundaries hboundary.1 hboundary.2 hle
    · rename_i hcut
      rw [slice_of_cut_character hle hlast hcut]
      rfl
  · exact slice_append_slice hab hbc (h a (by simp)) (h b (by simp)) (h c (by simp))

/-- A text with wide letters, from within it to far behind its end. -/
theorem part_spec_of_wide_letters :
    let t : Snapshot := ⟨"größe"⟩
    (∀ n ∈ [2, 4, 100], IsBoundary t.text n ∨ t.text.utf8ByteSize ≤ n) ∧
      (t.part 2 4 = "ö" ∧ t.part 4 100 = "ße" ∧ t.part 2 4 ++ t.part 4 100 = t.part 2 100) ∧
      (t.part 3 100).toByteArray = ByteArray.empty := by
  intro t
  obtain ⟨hbytes, happend⟩ := part_spec t
  have hboundary : ∀ n ∈ [2, 4, 100], IsBoundary t.text n ∨ t.text.utf8ByteSize ≤ n := by decide
  have happended := happend 2 4 100 (by decide) (by decide) hboundary
  refine ⟨hboundary, ⟨by decide +kernel, by decide +kernel, happended⟩, ?_⟩
  rw [(hbytes 3 100).1, if_neg]
  exact fun h ↦ absurd h.1 (by decide)

end HostOverlay.Snapshot
