import HostOverlay.Json.Parse
import HostOverlay.Json.Render
import Mathlib.Data.List.Basic

/-!
# Tokens of JSON text are read back

What the renderer writes for a text in quotes and for an integer, the reader takes back, whatever
stands behind it in the text.

* `stringTail?_flatMap_escapeChar`: a text in quotes is read back, with quotes, backslashes and
  control characters in it; every other character stands for itself.
* `number?_text`: an integer of 64 bits is read back, as far as the text behind it does not go on
  with the number.
-/

set_option autoImplicit false

namespace HostOverlay.Json

/-! ## Blanks -/

/-- The text has nothing but blanks. -/
def IsBlanks (b : List Char) : Prop := ∀ c ∈ b, isBlank c = true

theorem skipBlanks_append {b : List Char} (h : IsBlanks b) (cs : List Char) :
    skipBlanks (b ++ cs) = skipBlanks cs :=
  List.dropWhile_append_of_pos h

theorem skipBlanks_cons {c : Char} (h : isBlank c = false) (cs : List Char) :
    skipBlanks (c :: cs) = c :: cs :=
  List.dropWhile_cons_of_neg (by simp [h])

/-! ## Strings -/

theorem hexWord?_hexDigit : ∀ n < 0x20,
    hexWord? '0' '0' (hexDigit (n / 16)) (hexDigit (n % 16)) = some n := by
  decide

/-- A control character by its code point. -/
theorem stringTail?_codePoint {c : Char} (h : c.toNat < 0x20) (cs : List Char) :
    stringTail? ('\\' :: 'u' :: '0' :: '0' :: hexDigit (c.toNat / 16) :: hexDigit (c.toNat % 16) ::
      cs) = (stringTail? cs).map fun (s, r) ↦ (c :: s, r) := by
  have hhigh : isHighSurrogate c.toNat = false := by
    rw [isHighSurrogate, Bool.and_eq_false_iff, decide_eq_false_iff_not]
    omega
  have hlow : isLowSurrogate c.toNat = false := by
    rw [isLowSurrogate, Bool.and_eq_false_iff, decide_eq_false_iff_not]
    omega
  rw [stringTail?, hexWord?_hexDigit _ h]
  simp only [hhigh, hlow, Bool.false_eq_true, if_false, Char.ofNat_toNat]

/-- A character that is not escaped stands for itself. -/
theorem stringTail?_plain {c : Char} (hquote : c ≠ '"') (hslash : c ≠ '\\')
    (hcontrol : ¬ c.toNat < 0x20) (cs : List Char) :
    stringTail? (c :: cs) = (stringTail? cs).map fun (s, r) ↦ (c :: s, r) := by
  rw [stringTail?]
  · simp [hslash, hcontrol]
  · exact hquote
  · exact fun _ _ _ _ _ h ↦ absurd h hslash
  · exact fun _ _ h ↦ absurd h hslash

/-- **An escape is undone.** -/
theorem stringTail?_escapeChar (c : Char) (cs : List Char) :
    stringTail? (escapeChar c ++ cs) = (stringTail? cs).map fun (s, r) ↦ (c :: s, r) := by
  unfold escapeChar
  split_ifs with hquote hslash hb hf hn hr ht hcontrol
  all_goals try subst c
  · rfl
  · rfl
  · rfl
  · rfl
  · rfl
  · rfl
  · rfl
  · exact stringTail?_codePoint hcontrol cs
  · exact stringTail?_plain hquote hslash hcontrol cs

/-- **A text in quotes is read back**, whatever is in it. -/
theorem stringTail?_flatMap_escapeChar (cs rest : List Char) :
    stringTail? (cs.flatMap escapeChar ++ '"' :: rest) = some (cs, rest) := by
  induction cs with
  | nil => rfl
  | cons c cs ih =>
    rw [List.flatMap_cons, List.append_assoc, stringTail?_escapeChar, ih]
    rfl

theorem toList_quote (s : String) :
    (quote s).toList = '"' :: (s.toList.flatMap escapeChar ++ ['"']) :=
  String.toList_ofList

/-! ## Numbers -/

/-- The values of the digits of a number, the first one first. -/
def digitValues (n : Nat) : List Nat := (Nat.toDigits 10 n).filterMap (Text.digitIn? 10)

theorem digitIn?_digitChar : ∀ d < 10, Text.digitIn? 10 (Nat.digitChar d) = some d := by
  decide

theorem digitValues_of_lt {n : Nat} (h : n < 10) : digitValues n = [n] := by
  rw [digitValues, Nat.toDigits_of_lt_base h, List.filterMap_cons_some (digitIn?_digitChar n h),
    List.filterMap_nil]

theorem digitValues_of_le {n : Nat} (h : 10 ≤ n) :
    digitValues n = digitValues (n / 10) ++ [n % 10] := by
  have hlast : n % 10 < 10 := Nat.mod_lt _ (by decide)
  rw [digitValues, Nat.toDigits_of_base_le (by decide) h, List.filterMap_append,
    List.filterMap_cons_some (digitIn?_digitChar _ hlast), List.filterMap_nil, digitValues]

/-- Every character of a number is a digit. -/
theorem isDigit_of_mem_toDigits {n : Nat} : ∀ c ∈ Nat.toDigits 10 n, Text.isDigit c = true := by
  induction n using Nat.strongRecOn with
  | _ n ih =>
    have hdigit : ∀ d < 10, Text.isDigit (Nat.digitChar d) = true := by decide
    rw [Nat.toDigits_eq_if (by decide)]
    split
    · rename_i h
      exact List.forall_mem_singleton.2 (hdigit n h)
    · rename_i h
      rw [List.forall_mem_append, List.forall_mem_singleton]
      exact ⟨ih _ (by omega), hdigit _ (Nat.mod_lt _ (by decide))⟩

/-- A number begins with a digit. -/
theorem exists_toDigits_eq_cons (n : Nat) :
    ∃ c cs, Nat.toDigits 10 n = c :: cs ∧ Text.isDigit c = true := by
  cases hn : Nat.toDigits 10 n with
  | nil => exact absurd hn Nat.toDigits_ne_nil
  | cons c cs => exact ⟨c, cs, rfl, isDigit_of_mem_toDigits c (hn ▸ List.mem_cons_self)⟩

/-- The first digit of a number that is not zero is not zero. -/
theorem exists_digitValues_eq_cons {n : Nat} (h : 0 < n) :
    ∃ d ds, digitValues n = d :: ds ∧ d ≠ 0 := by
  induction n using Nat.strongRecOn with
  | _ n ih =>
    by_cases hlt : n < 10
    · exact ⟨n, [], digitValues_of_lt hlt, by omega⟩
    · obtain ⟨d, ds, hds, hd⟩ := ih (n / 10) (by omega) (by omega)
      refine ⟨d, ds ++ [n % 10], ?_, hd⟩
      rw [digitValues_of_le (by omega), hds, List.cons_append]

theorem gather_append {ds es : List Nat} {m n : Nat} (h : Number.gather m ds = (n, 0)) :
    Number.gather m (ds ++ es) = Number.gather n es := by
  induction ds generalizing m with
  | nil =>
    obtain rfl : m = n := congrArg Prod.fst h
    rfl
  | cons d ds ih =>
    rw [Number.gather] at h
    rw [List.cons_append, Number.gather]
    split at h
    · rename_i hd
      rw [if_pos hd]
      exact ih h
    · cases congrArg Prod.snd h

/-- The digits of a number of 64 bits all have room. -/
theorem gather_digitValues {n : Nat} (h : n < Number.wordLimit) :
    Number.gather 0 (digitValues n) = (n, 0) := by
  induction n using Nat.strongRecOn with
  | _ n ih =>
    by_cases hlt : n < 10
    · rw [digitValues_of_lt hlt, Number.gather, Nat.zero_mul, Nat.zero_add, if_pos h]
      rfl
    · have hn : n / 10 * 10 + n % 10 = n := by omega
      rw [digitValues_of_le (by omega), gather_append (ih (n / 10) (by omega) (by omega)),
        Number.gather, hn, if_pos h]
      rfl

/-- What stands here is no part of a number. -/
def EndsNumber (rest : List Char) : Prop :=
  ∀ c ∈ rest.head?, Text.isDigit c = false ∧ c ≠ '.' ∧ c ≠ 'e' ∧ c ≠ 'E'

theorem digits_toDigits (n : Nat) {rest : List Char} (h : EndsNumber rest) :
    digits (Nat.toDigits 10 n ++ rest) = (digitValues n, rest) := by
  have hrest : rest.takeWhile Text.isDigit = [] ∧ rest.dropWhile Text.isDigit = rest := by
    cases rest with
    | nil => exact ⟨rfl, rfl⟩
    | cons c cs =>
      have hc : Text.isDigit c = false := (h c rfl).1
      simp [hc]
  rw [digits, List.takeWhile_append_of_pos isDigit_of_mem_toDigits,
    List.dropWhile_append_of_pos isDigit_of_mem_toDigits, hrest.1, hrest.2, List.append_nil]
  rfl

theorem fraction?_of_endsNumber {rest : List Char} (h : EndsNumber rest) :
    fraction? rest = some (none, rest) := by
  rw [fraction?]
  rintro cs rfl
  exact (h '.' rfl).2.1 rfl

theorem exponent?_of_endsNumber {rest : List Char} (h : EndsNumber rest) :
    exponent? rest = some (none, rest) := by
  cases rest with
  | nil => rfl
  | cons c cs =>
    obtain ⟨-, -, he, hE⟩ := h c rfl
    simp [exponent?, he, hE]

/-- Is the number an integer of 64 bits, with or without a sign? -/
def Number.IsWord : Number → Prop
  | .integer i => -0x8000000000000000 ≤ i ∧ i < Number.wordLimit
  | .decimal _ => False

/-- The first digit of a number is no zero, unless it is the only one. -/
theorem exists_digitValues_ne (n : Nat) :
    ∃ d ds, digitValues n = d :: ds ∧ ∀ e es, d :: ds ≠ 0 :: e :: es := by
  rcases Nat.eq_zero_or_pos n with rfl | hn
  · exact ⟨0, [], digitValues_of_lt (by decide), by simp⟩
  · obtain ⟨d, ds, hds, hd⟩ := exists_digitValues_eq_cons hn
    exact ⟨d, ds, hds, fun e es h ↦ hd (List.cons.inj h).1⟩

theorem number?_toDigits {n : Nat} (h : n < Number.wordLimit) {rest : List Char}
    (hrest : EndsNumber rest) :
    number? (Nat.toDigits 10 n ++ rest) = some (.integer n, rest) := by
  obtain ⟨d, ds, hds, hd⟩ := exists_digitValues_ne n
  have hfirst : ∀ cs, Nat.toDigits 10 n ++ rest ≠ '-' :: cs := by
    obtain ⟨c, tail, htail, hc⟩ := exists_toDigits_eq_cons n
    intro cs hcs
    rw [htail, List.cons_append] at hcs
    obtain ⟨rfl, -⟩ := List.cons.inj hcs
    exact absurd hc (by decide)
  unfold number?
  split
  rename_i negative cs hsign
  split at hsign
  · rename_i heq
    exact absurd heq (hfirst _)
  · obtain ⟨rfl, rfl⟩ := Prod.mk.inj hsign
    rw [digits_toDigits n hrest, hds]
    split
    · rename_i heq
      cases heq
    · rename_i heq
      exact absurd (congrArg Prod.fst heq) (hd _ _)
    · simp [fraction?_of_endsNumber hrest, exponent?_of_endsNumber hrest, Number.ofParts?,
        ← hds, gather_digitValues h]

theorem number?_minus_toDigits {n : Nat} (hpos : 0 < n) (h : n ≤ 0x8000000000000000)
    {rest : List Char} (hrest : EndsNumber rest) :
    number? ('-' :: Nat.toDigits 10 n ++ rest) = some (.integer (-n), rest) := by
  obtain ⟨d, ds, hds, hd⟩ := exists_digitValues_ne n
  have hlimit : n < Number.wordLimit := by
    rw [Number.wordLimit]
    omega
  unfold number?
  simp only [List.cons_append]
  rw [digits_toDigits n hrest, hds]
  split
  · rename_i heq
    cases heq
  · rename_i heq
    exact absurd (congrArg Prod.fst heq) (hd _ _)
  · simp [fraction?_of_endsNumber hrest, exponent?_of_endsNumber hrest, Number.ofParts?,
      ← hds, gather_digitValues hlimit, hpos, h]

theorem Number.toList_text_ofNat (n : Nat) :
    (Number.text (.integer (.ofNat n))).toList = Nat.toDigits 10 n :=
  Nat.toList_repr

theorem Number.toList_text_negSucc (n : Nat) :
    (Number.text (.integer (.negSucc n))).toList = '-' :: Nat.toDigits 10 (n + 1) := by
  have htext : Number.text (.integer (.negSucc n)) = "-" ++ Nat.repr (n + 1) := rfl
  rw [htext, String.toList_append, Nat.toList_repr]
  rfl

/-- An integer begins with its sign or a digit. -/
theorem Number.IsWord.exists_text_eq_cons {n : Number} (h : n.IsWord) :
    ∃ c cs, n.text.toList = c :: cs ∧ (Text.isDigit c = true ∨ c = '-') := by
  match n with
  | .integer (.ofNat n) =>
    obtain ⟨c, cs, hcs, hc⟩ := exists_toDigits_eq_cons n
    exact ⟨c, cs, (toList_text_ofNat n).trans hcs, .inl hc⟩
  | .integer (.negSucc n) => exact ⟨'-', _, toList_text_negSucc n, .inr rfl⟩

/-- **An integer is read back**, up to what stands behind it. -/
theorem number?_text {n : Number} (h : n.IsWord) {rest : List Char} (hrest : EndsNumber rest) :
    number? (n.text.toList ++ rest) = some (n, rest) := by
  match n with
  | .integer (.ofNat n) =>
    have hn : n < Number.wordLimit := Int.ofNat_lt.1 h.2
    rw [Number.toList_text_ofNat, number?_toDigits hn hrest]
    rfl
  | .integer (.negSucc n) =>
    have hn : n + 1 ≤ 0x8000000000000000 := by
      have := h.1
      omega
    rw [Number.toList_text_negSucc, number?_minus_toDigits (Nat.succ_pos n) hn hrest]
    rfl

end HostOverlay.Json
