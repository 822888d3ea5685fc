/-!
# Byte offsets into text

Editors and hosts speak of places in a text as offsets in **UTF-8 bytes**, while the text itself is
a sequence of characters.  This module keeps the two together.

* `byteSize` is the number of bytes a sequence of characters takes.
* `splitAtByte cs n` cuts `cs` after its first `n` bytes.  It is `none` exactly when `n` is not a
  character boundary of `cs`: inside a character, or past the end.
* `slice s start stop` is the part of `s` between two offsets.  Offsets past the end count as the
  end, a start past the stop counts as the stop, and an offset inside a character gives the empty
  text.
-/

set_option autoImplicit false

namespace HostOverlay.Text

/-- The number of bytes that `cs` takes in UTF-8. -/
def byteSize : List Char → Nat
  | [] => 0
  | c :: cs => c.utf8Size + byteSize cs

@[simp] theorem byteSize_nil : byteSize [] = 0 := rfl

@[simp] theorem byteSize_cons (c : Char) (cs : List Char) :
    byteSize (c :: cs) = c.utf8Size + byteSize cs := rfl

@[simp] theorem byteSize_append (cs ds : List Char) :
    byteSize (cs ++ ds) = byteSize cs + byteSize ds := by
  induction cs with
  | nil => exact (Nat.zero_add _).symm
  | cons c cs ih =>
    rw [List.cons_append, byteSize_cons, byteSize_cons, ih]
    omega

/-- Cut `cs` after its first `n` bytes; `none` when `n` is no character boundary of `cs`. -/
def splitAtByte : List Char → Nat → Option (List Char × List Char)
  | cs, 0 => some ([], cs)
  | [], _ + 1 => none
  | c :: cs, n + 1 =>
    if c.utf8Size ≤ n + 1 then
      (splitAtByte cs (n + 1 - c.utf8Size)).map fun (before, after) => (c :: before, after)
    else none

/-- The two parts of a cut make up the whole, and the first has the size asked for. -/
theorem splitAtByte_eq_some {cs before after : List Char} {n : Nat}
    (h : splitAtByte cs n = some (before, after)) : before ++ after = cs ∧ byteSize before = n := by
  induction cs generalizing n before with
  | nil =>
    cases n <;> simp_all [splitAtByte]
  | cons c cs ih =>
    cases n with
    | zero => simp_all [splitAtByte]
    | succ n =>
      by_cases hc : c.utf8Size ≤ n + 1
      · simp only [splitAtByte, hc, if_true] at h
        obtain ⟨⟨b, a⟩, hcut, heq⟩ := Option.map_eq_some_iff.1 h
        obtain ⟨rfl, rfl⟩ := Prod.mk.injEq .. ▸ heq
        obtain ⟨happ, hsize⟩ := ih hcut
        refine ⟨by simp [happ], ?_⟩
        simp only [byteSize_cons, hsize]
        omega
      · simp [splitAtByte, hc] at h

/-- The end of any initial part is a boundary. -/
theorem splitAtByte_append (before after : List Char) :
    splitAtByte (before ++ after) (byteSize before) = some (before, after) := by
  induction before with
  | nil => cases after <;> rfl
  | cons c cs ih =>
    have hpos : 0 < c.utf8Size := c.utf8Size_pos
    obtain ⟨k, hk⟩ : ∃ k, byteSize (c :: cs) = k + 1 := ⟨byteSize (c :: cs) - 1, by simp; omega⟩
    have hle : c.utf8Size ≤ k + 1 := by rw [← hk]; simp
    have hrest : k + 1 - c.utf8Size = byteSize cs := by rw [← hk]; simp
    simp [hk, splitAtByte, hle, hrest, ih]

/-- The part of `s` between the offsets `start` and `stop`, clamped to `s`. -/
def slice (s : String) (start stop : Nat) : String :=
  let cs := s.toList
  let stop := min stop (byteSize cs)
  let start := min start stop
  match splitAtByte cs start with
  | none => ""
  | some (_, rest) =>
    match splitAtByte rest (stop - start) with
    | none => ""
    | some (part, _) => String.ofList part

end HostOverlay.Text
