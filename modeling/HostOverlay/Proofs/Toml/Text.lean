import HostOverlay.Toml.Text
import Mathlib.Tactic.IntervalCases

/-!
# A text that is written is read back

Whatever form a text is written in, reading it gives the text again, and what follows it is left.
Each form has its own reason.

* A basic text has no character in it that could be taken for something else: a quote, a backslash
  and a control character are escaped, and each escape is undone by `unescape?`
  (`unescape?_escape?`).  So `basicTail?_writeBasic` holds for every text.
* A literal text is read as it stands, so it must not have an apostrophe or a control character.
* Over several lines quotes may stand for themselves, but no three in a row.  The last ones come
  right before the three that close the text: `closing?_replicate` says that these are told apart.

`text?_write` puts the forms together: `Form.choose` picks none that the text does not fit.
-/

set_option autoImplicit false

namespace HostOverlay.Toml

/-! ## Escapes -/

theorem number?_hexDigits : ∀ n ≤ 0x7f,
    Text.number? 16 ['0', '0', hexDigit (n / 16), hexDigit (n % 16)] = some n := by
  decide

theorem charOf?_toNat (c : Char) : charOf? c.toNat = some c := by
  have hvalid : c.toNat.isValidChar := c.valid
  rw [charOf?, dif_pos hvalid]
  rfl

/-- A control character that is given by its code point. -/
theorem codePoint?_hexDigits {c : Char} (h : c.toNat ≤ 0x7f) (rest : List Char) :
    codePoint? 4 (['0', '0', hexDigit (c.toNat / 16), hexDigit (c.toNat % 16)] ++ rest) =
      some (c, rest) := by
  have htake : (['0', '0', hexDigit (c.toNat / 16), hexDigit (c.toNat % 16)] ++ rest).take 4 =
    ['0', '0', hexDigit (c.toNat / 16), hexDigit (c.toNat % 16)] := rfl
  rw [codePoint?, if_neg (by simp), htake, number?_hexDigits _ h, Option.bind_eq_bind,
    Option.bind_some, charOf?_toNat]
  rfl

/-- **An escape is undone**, and is no line break behind a backslash. -/
theorem unescape?_escape? {multi : Bool} {c : Char} {e : List Char} (h : escape? multi c = some e) :
    ∃ e', e = '\\' :: e' ∧ ∀ rest,
      unescape? (e' ++ rest) = some (c, rest) ∧ lineJoin? (e' ++ rest) = none := by
  unfold escape? at h
  split_ifs at h with hb ht hn hm hf hr hs hu
  all_goals
    obtain rfl := Option.some.inj h
    refine ⟨_, rfl, fun rest ↦ ⟨?_, rfl⟩⟩
  · subst hb
    rfl
  · subst ht
    rfl
  · subst hn
    rfl
  · subst hf
    rfl
  · subst hr
    rfl
  · subst hs
    rfl
  · have hsmall : c.toNat ≤ 0x7f := by
      rw [Bool.or_eq_true, decide_eq_true_iff, decide_eq_true_iff] at hu
      omega
    exact codePoint?_hexDigits hsmall rest

/-- A character that is not escaped may stand for itself. -/
theorem isTextChar_of_escape?_eq_none {multi : Bool} {c : Char} (h : escape? multi c = none) :
    c ≠ '\\' ∧ c ≠ '\r' ∧ (c = '\n' ∧ multi = true ∨ c ≠ '\n' ∧ isTextChar c = true) := by
  unfold escape? at h
  split_ifs at h with hb ht hn hm hf hr hs hu
  · exact ⟨by rw [hn]; decide, by rw [hn]; decide, .inl ⟨hn, hm⟩⟩
  · refine ⟨hs, hr, .inr ⟨hn, ?_⟩⟩
    rw [Bool.or_eq_true, decide_eq_true_iff, decide_eq_true_iff] at hu
    rw [isTextChar, Bool.or_eq_true, Bool.and_eq_true, decide_eq_true_iff, decide_eq_true_iff,
      decide_eq_true_iff]
    omega

/-! ## Basic texts -/

section

variable {multi : Bool} {run : Nat} {c : Char} (cs : List Char)

theorem writeBasic_quote_escaped (h : (if multi then 2 else 0) ≤ run) :
    writeBasic multi run ('"' :: cs) = '\\' :: '"' :: writeBasic multi 0 cs := by
  rw [writeBasic, if_pos rfl, if_pos h]

theorem writeBasic_quote (h : run < 2) :
    writeBasic true run ('"' :: cs) = '"' :: writeBasic true (run + 1) cs := by
  rw [writeBasic, if_pos rfl, if_pos rfl, if_neg (Nat.not_le.2 h)]

theorem writeBasic_escape (hc : c ≠ '"') {e : List Char} (he : escape? multi c = some e) :
    writeBasic multi run (c :: cs) = e ++ writeBasic multi 0 cs := by
  rw [writeBasic, if_neg hc, he]

theorem writeBasic_plain (hc : c ≠ '"') (he : escape? multi c = none) :
    writeBasic multi run (c :: cs) = c :: writeBasic multi 0 cs := by
  rw [writeBasic, if_neg hc, he]

end

/-- Where a quote would be escaped, what is written does not begin with one. -/
theorem exists_writeBasic_eq_cons {multi : Bool} {run : Nat} {c : Char} (cs : List Char)
    (h : c = '"' → (if multi then 2 else 0) ≤ run) :
    ∃ d tail, writeBasic multi run (c :: cs) = d :: tail ∧ d ≠ '"' := by
  by_cases hc : c = '"'
  · subst hc
    exact ⟨_, _, writeBasic_quote_escaped cs (h rfl), by decide⟩
  · cases he : escape? multi c with
    | none => exact ⟨_, _, writeBasic_plain cs hc he, hc⟩
    | some e =>
      obtain ⟨e', rfl, -⟩ := unescape?_escape? he
      exact ⟨_, _, writeBasic_escape cs hc he, by decide⟩

theorem unescape?_quote (rest : List Char) : unescape? ('"' :: rest) = some ('"', rest) := rfl

theorem basicTail?_escape {rest rest' : List Char} {c : Char}
    (h : unescape? rest = some (c, rest')) :
    basicTail? ('\\' :: rest) = (basicTail? rest').map fun (s, r) ↦ (c :: s, r) := by
  rw [basicTail?, if_neg (by decide), if_pos rfl]
  split
  · rename_i hnone
    rw [h] at hnone
    cases hnone
  · rename_i c' rest'' hsome
    obtain ⟨rfl, rfl⟩ := Prod.mk.inj (Option.some.inj (h.symm.trans hsome))
    rfl

/-- **A basic text is read back**, whatever is in it. -/
theorem basicTail?_writeBasic (cs rest : List Char) :
    basicTail? (writeBasic false 0 cs ++ '"' :: rest) = some (cs, rest) := by
  induction cs with
  | nil =>
    rw [writeBasic, List.nil_append, basicTail?]
    rfl
  | cons c cs ih =>
    by_cases hc : c = '"'
    · subst hc
      rw [writeBasic_quote_escaped cs (Nat.zero_le _), List.cons_append, List.cons_append,
        basicTail?_escape (unescape?_quote _), ih]
      rfl
    · cases he : escape? false c with
      | none =>
        obtain ⟨hslash, -, hnl | ⟨-, htext⟩⟩ := isTextChar_of_escape?_eq_none he
        · cases hnl.2
        · rw [writeBasic_plain cs hc he, List.cons_append, basicTail?, if_neg hc, if_neg hslash,
            if_pos htext, ih]
          rfl
      | some e =>
        obtain ⟨e', rfl, hundo⟩ := unescape?_escape? he
        rw [writeBasic_escape cs hc he, List.cons_append, List.cons_append, List.append_assoc,
          basicTail?_escape (hundo _).1, ih]
        rfl

/-! ## Literal texts -/

/-- May the character stand in a literal text of one line? -/
theorem isTextChar_of_not_needsEscape {c : Char} (h : needsEscape c = false) (hn : c ≠ '\n') :
    isTextChar c = true := by
  rw [needsEscape] at h
  rw [isTextChar]
  by_cases ht : c = '\t'
  · simp [ht]
  · simp only [ht, hn, ne_eq, not_false_eq_true, decide_true, Bool.and_true, Bool.or_eq_false_iff,
      decide_eq_false_iff_not, not_le] at h
    simp only [ht, decide_false, Bool.false_or, Bool.and_eq_true, decide_eq_true_iff, ne_eq]
    omega

/-- **A literal text is read back**, if it has no apostrophe and no control character. -/
theorem literalTail?_append {cs : List Char}
    (h : ∀ c ∈ cs, c ≠ '\x27' ∧ isTextChar c = true) (rest : List Char) :
    literalTail? (cs ++ '\x27' :: rest) = some (cs, rest) := by
  induction cs with
  | nil =>
    rw [List.nil_append, literalTail?]
    rfl
  | cons c cs ih =>
    rw [List.forall_mem_cons] at h
    rw [List.cons_append, literalTail?, if_neg h.1.1, if_pos h.1.2, ih h.2]
    rfl

/-! ## Closing quotes -/

section

variable (q : Char)

/-- **The quotes at the end of a text** are told from the three that close it. -/
theorem closing?_replicate {k : Nat} (hk : k ≤ 2) {rest : List Char}
    (hrest : rest.head? ≠ some q) :
    closing? q (List.replicate k q ++ (triple q ++ rest)) = some (List.replicate k q, rest) := by
  have hfirst : ∀ d tail, rest = d :: tail → d ≠ q := by
    rintro d tail rfl rfl
    exact hrest rfl
  rcases rest with _ | ⟨d, _ | ⟨e, tail⟩⟩
  · interval_cases k <;> simp [closing?, triple, List.replicate]
  · have hd := hfirst d _ rfl
    interval_cases k <;> simp [closing?, triple, List.replicate, hd]
  · have hd := hfirst d _ rfl
    interval_cases k <;> simp [closing?, triple, List.replicate, hd]

variable {q} {c : Char} (h : c ≠ q) (rest : List Char)

include h

theorem closing?_of_second_ne : closing? q (q :: c :: rest) = none := by
  cases rest with
  | nil => rfl
  | cons d rest =>
    unfold closing?
    exact if_neg fun hall ↦ h hall.2.1

theorem closing?_of_third_ne : closing? q (q :: q :: c :: rest) = none := by
  unfold closing?
  exact if_neg fun hall ↦ h hall.2.2

end

/-! ## Basic texts of several lines -/

section

variable {rest rest' : List Char} {c : Char}

theorem multiBasicTail?_quote (h : closing? '"' ('"' :: rest) = none) :
    multiBasicTail? ('"' :: rest) = (multiBasicTail? rest).map fun (s, r) ↦ ('"' :: s, r) := by
  rw [multiBasicTail?.eq_def]
  simp only [if_true, h]

theorem multiBasicTail?_closing {found : List Char × List Char}
    (h : closing? '"' ('"' :: rest) = some found) :
    multiBasicTail? ('"' :: rest) = some found := by
  rw [multiBasicTail?.eq_def]
  simp only [if_true, h]

theorem multiBasicTail?_escape (hjoin : lineJoin? rest = none)
    (h : unescape? rest = some (c, rest')) :
    multiBasicTail? ('\\' :: rest) = (multiBasicTail? rest').map fun (s, r) ↦ (c :: s, r) := by
  rw [multiBasicTail?.eq_def]
  simp only [Char.reduceEq, if_false, if_true]
  split
  · rename_i hsome
    rw [hjoin] at hsome
    cases hsome
  split
  · rename_i hnone
    rw [h] at hnone
    cases hnone
  · rename_i c' rest'' hsome
    obtain ⟨rfl, rfl⟩ := Prod.mk.inj (Option.some.inj (h.symm.trans hsome))
    rfl

theorem multiBasicTail?_plain (hquote : c ≠ '"') (he : escape? true c = none) :
    multiBasicTail? (c :: rest) = (multiBasicTail? rest).map fun (s, r) ↦ (c :: s, r) := by
  obtain ⟨hslash, hr, ⟨hn, -⟩ | ⟨hn, htext⟩⟩ := isTextChar_of_escape?_eq_none he
  · rw [multiBasicTail?.eq_def]
    simp only [if_neg hquote, if_neg hslash, if_pos hn]
  · rw [multiBasicTail?.eq_def]
    simp only [if_neg hquote, if_neg hslash, if_neg hn, if_neg hr, if_pos htext]

end

/-- A quote of the text is read as such, or together with the closing quotes. -/
theorem multiBasicTail?_quote_writeBasic {run : Nat} {cs rest : List Char}
    (hrest : rest.head? ≠ some '"')
    (hread : multiBasicTail? (writeBasic true (run + 1) cs ++ (triple '"' ++ rest)) =
      some (cs, rest)) :
    multiBasicTail? ('"' :: (writeBasic true (run + 1) cs ++ (triple '"' ++ rest))) =
      some ('"' :: cs, rest) := by
  have hopen : closing? '"' ('"' :: (writeBasic true (run + 1) cs ++ (triple '"' ++ rest))) = none →
      multiBasicTail? ('"' :: (writeBasic true (run + 1) cs ++ (triple '"' ++ rest))) =
        some ('"' :: cs, rest) := by
    intro hnone
    rw [multiBasicTail?_quote hnone, hread]
    rfl
  rcases cs with _ | ⟨d, cs⟩
  · -- the last quote
    exact multiBasicTail?_closing (closing?_replicate '"' (show 1 ≤ 2 by decide) hrest)
  by_cases hd : d = '"' ∧ run + 1 < 2
  · obtain ⟨rfl, hrun'⟩ := hd
    rcases cs with _ | ⟨e, cs⟩
    · -- the last but one
      rw [writeBasic_quote [] hrun', writeBasic]
      exact multiBasicTail?_closing (closing?_replicate '"' (Nat.le_refl 2) hrest)
    · refine hopen ?_
      obtain ⟨b, tail, hwrite, hb⟩ := exists_writeBasic_eq_cons cs
        (show e = '"' → (if true then 2 else 0) ≤ run + 1 + 1 from fun _ ↦ Nat.le_add_left 2 run)
      rw [writeBasic_quote (e :: cs) hrun', hwrite]
      exact closing?_of_third_ne hb _
  · refine hopen ?_
    obtain ⟨b, tail, hwrite, hb⟩ := exists_writeBasic_eq_cons cs
      (show d = '"' → (if true then 2 else 0) ≤ run + 1 from
        fun hquote ↦ Nat.not_lt.1 fun hlt ↦ hd ⟨hquote, hlt⟩)
    rw [hwrite]
    exact closing?_of_second_ne hb _

/-- **A basic text of several lines is read back**, whatever is in it. -/
theorem multiBasicTail?_writeBasic (cs : List Char) {rest : List Char}
    (hrest : rest.head? ≠ some '"') : ∀ run,
    multiBasicTail? (writeBasic true run cs ++ (triple '"' ++ rest)) = some (cs, rest) := by
  induction cs with
  | nil =>
    intro run
    rw [writeBasic, List.nil_append]
    exact multiBasicTail?_closing (closing?_replicate '"' (Nat.zero_le _) hrest)
  | cons c cs ih =>
    intro run
    by_cases hc : c = '"'
    · subst hc
      by_cases hrun : run < 2
      · rw [writeBasic_quote cs hrun, List.cons_append]
        exact multiBasicTail?_quote_writeBasic hrest (ih _)
      · rw [writeBasic_quote_escaped cs (Nat.not_lt.1 hrun), List.cons_append, List.cons_append,
          multiBasicTail?_escape rfl (unescape?_quote _), ih]
        rfl
    · cases he : escape? true c with
      | none =>
        rw [writeBasic_plain cs hc he, List.cons_append, multiBasicTail?_plain hc he, ih]
        rfl
      | some e =>
        obtain ⟨e', rfl, hundo⟩ := unescape?_escape? he
        obtain ⟨hundo, hjoin⟩ := hundo (writeBasic true 0 cs ++ (triple '"' ++ rest))
        rw [writeBasic_escape cs hc he, List.cons_append, List.cons_append, List.append_assoc,
          multiBasicTail?_escape hjoin hundo, ih]
        rfl

/-! ## Literal texts of several lines -/

theorem le_longestRun (q : Char) (cs : List Char) : ∀ run, run ≤ longestRun q run cs := by
  induction cs with
  | nil => exact fun run ↦ Nat.le_refl _
  | cons c cs ih =>
    intro run
    rw [longestRun]
    split
    · exact Nat.le_trans (Nat.le_succ run) (ih (run + 1))
    · exact Nat.le_max_left _ _

section

variable {rest : List Char} {c : Char}

theorem multiLiteralTail?_quote (h : closing? '\x27' ('\x27' :: rest) = none) :
    multiLiteralTail? ('\x27' :: rest) =
      (multiLiteralTail? rest).map fun (s, r) ↦ ('\x27' :: s, r) := by
  rw [multiLiteralTail?, if_pos rfl, h]
  simp

theorem multiLiteralTail?_closing {found : List Char × List Char}
    (h : closing? '\x27' ('\x27' :: rest) = some found) :
    multiLiteralTail? ('\x27' :: rest) = some found := by
  rw [multiLiteralTail?, if_pos rfl, h]
  simp

theorem multiLiteralTail?_plain (hquote : c ≠ '\x27') (h : needsEscape c = false) :
    multiLiteralTail? (c :: rest) = (multiLiteralTail? rest).map fun (s, r) ↦ (c :: s, r) := by
  have hr : c ≠ '\r' := by
    rintro rfl
    exact absurd h (by decide)
  have htext : (c = '\n' || isTextChar c) = true := by
    by_cases hn : c = '\n'
    · simp [hn]
    · simp [isTextChar_of_not_needsEscape h hn]
  rw [multiLiteralTail?, if_neg hquote, if_pos htext]
  rintro rest' rfl
  exact absurd rfl hr

end

/-- **A literal text of several lines is read back**, if it has no control characters and no three
apostrophes in a row. -/
theorem multiLiteralTail?_append {cs : List Char} (hplain : ∀ c ∈ cs, needsEscape c = false)
    {rest : List Char} (hrest : rest.head? ≠ some '\x27') :
    ∀ run, longestRun '\x27' run cs ≤ 2 →
      multiLiteralTail? (cs ++ (triple '\x27' ++ rest)) = some (cs, rest) := by
  induction cs with
  | nil =>
    intro run _
    exact multiLiteralTail?_closing (closing?_replicate '\x27' (Nat.zero_le _) hrest)
  | cons c cs ih =>
    intro run hrun
    rw [List.forall_mem_cons] at hplain
    rw [longestRun] at hrun
    by_cases hc : c = '\x27'
    · subst hc
      rw [if_pos rfl] at hrun
      have hread := ih hplain.2 _ hrun
      have hopen : closing? '\x27' ('\x27' :: (cs ++ (triple '\x27' ++ rest))) = none →
          multiLiteralTail? ('\x27' :: (cs ++ (triple '\x27' ++ rest))) =
            some ('\x27' :: cs, rest) := by
        intro hnone
        rw [multiLiteralTail?_quote hnone, hread]
        rfl
      rcases cs with _ | ⟨d, cs⟩
      · exact multiLiteralTail?_closing (closing?_replicate '\x27' (show 1 ≤ 2 by decide) hrest)
      rw [longestRun] at hrun
      by_cases hd : d = '\x27'
      · subst hd
        rw [if_pos rfl] at hrun
        rcases cs with _ | ⟨e, cs⟩
        · exact multiLiteralTail?_closing (closing?_replicate '\x27' (Nat.le_refl 2) hrest)
        · refine hopen (closing?_of_third_ne ?_ _)
          rintro rfl
          rw [longestRun, if_pos rfl] at hrun
          have hle := le_longestRun '\x27' cs (run + 1 + 1 + 1)
          omega
      · exact hopen (closing?_of_second_ne hd _)
    · rw [if_neg hc] at hrun
      rw [List.cons_append, multiLiteralTail?_plain hc hplain.1,
        ih hplain.2 0 (Nat.le_trans (Nat.le_max_right _ _) hrun)]
      rfl

/-! ## All forms -/

theorem newline?_cons {c : Char} (hn : c ≠ '\n') (hr : c ≠ '\r') (rest : List Char) :
    newline? (c :: rest) = none := by
  unfold newline?
  split
  · rename_i heq
    exact absurd (List.cons.inj heq).1 hn
  · rename_i heq
    exact absurd (List.cons.inj heq).1 hr
  · rfl

/-- The line break in front of a text of several lines is skipped, and nothing else is. -/
theorem skipNewline_firstBreak {cs body : List Char} (h : '\n' ∉ cs → newline? body = none) :
    skipNewline (firstBreak cs ++ body) = body := by
  rw [firstBreak]
  split
  · rfl
  · rename_i hcs
    rw [List.nil_append, skipNewline, h (by simpa using hcs), Option.getD_none]

theorem newline?_writeBasic {cs : List Char} (h : '\n' ∉ cs) (rest : List Char) :
    newline? (writeBasic true 0 cs ++ (triple '"' ++ rest)) = none := by
  cases cs with
  | nil => rfl
  | cons c cs =>
    by_cases hc : c = '"'
    · subst hc
      rw [writeBasic_quote cs (by decide)]
      rfl
    · cases he : escape? true c with
      | some e =>
        obtain ⟨e', rfl, -⟩ := unescape?_escape? he
        rw [writeBasic_escape cs hc he]
        rfl
      | none =>
        obtain ⟨-, hr, -⟩ := isTextChar_of_escape?_eq_none he
        rw [writeBasic_plain cs hc he]
        exact newline?_cons (fun hn ↦ h (hn ▸ List.mem_cons_self)) hr _

theorem tripled?_triple (q : Char) (rest : List Char) :
    tripled? q (triple q ++ rest) = some rest := by
  rw [triple]
  exact if_pos ⟨rfl, rfl, rfl⟩

theorem tripled?_eq_none {q : Char} {cs : List Char} (h : ¬ triple q <+: cs) :
    tripled? q cs = none := by
  unfold tripled?
  split
  · rename_i a b c rest
    refine if_neg ?_
    rintro ⟨rfl, rfl, rfl⟩
    exact h ⟨rest, rfl⟩
  · rfl

theorem not_triple_isPrefix {q c : Char} (h : c ≠ q) (cs : List Char) : ¬ triple q <+: c :: cs := by
  rintro ⟨rest, hrest⟩
  exact h (List.cons.inj hrest).1.symm

section

variable {cs rest : List Char} (hquote : rest.head? ≠ some '"')

include hquote

theorem text?_basic : text? (Form.basic.write cs ++ rest) = some (cs, rest) := by
  have hwrite : Form.basic.write cs ++ rest = '"' :: (writeBasic false 0 cs ++ '"' :: rest) := by
    simp [Form.write]
  have htriple : ¬ triple '"' <+: '"' :: (writeBasic false 0 cs ++ '"' :: rest) := by
    rintro ⟨tail, htail⟩
    have htail := (List.cons.inj htail).2
    rcases cs with _ | ⟨c, cs⟩
    · refine hquote ?_
      rw [← (List.cons.inj htail).2]
      rfl
    · obtain ⟨d, tail', hwritten, hd⟩ := exists_writeBasic_eq_cons cs
        (show c = '"' → (if false then 2 else 0) ≤ 0 from fun _ ↦ Nat.le_refl 0)
      rw [hwritten] at htail
      exact hd (List.cons.inj htail).1.symm
  rw [hwrite, text?, tripled?_eq_none htriple,
    tripled?_eq_none (not_triple_isPrefix (by decide) _)]
  exact (if_pos rfl).trans (basicTail?_writeBasic cs rest)

theorem text?_multiBasic : text? (Form.multiBasic.write cs ++ rest) = some (cs, rest) := by
  simp only [Form.write, List.append_assoc]
  rw [text?.eq_def, tripled?_triple]
  simp only
  rw [skipNewline_firstBreak fun hcs ↦ newline?_writeBasic hcs rest]
  exact multiBasicTail?_writeBasic cs hquote 0

end

theorem text?_literal {cs : List Char} (hcs : cs ≠ [])
    (h : ∀ c ∈ cs, c ≠ '\x27' ∧ isTextChar c = true) (rest : List Char) :
    text? (Form.literal.write cs ++ rest) = some (cs, rest) := by
  have hwrite : Form.literal.write cs ++ rest = '\x27' :: (cs ++ '\x27' :: rest) := by
    simp [Form.write]
  have htriple : ¬ triple '\x27' <+: '\x27' :: (cs ++ '\x27' :: rest) := by
    rintro ⟨tail, htail⟩
    have htail := (List.cons.inj htail).2
    obtain ⟨c, cs', rfl⟩ := List.exists_cons_of_ne_nil hcs
    exact (h c List.mem_cons_self).1 (List.cons.inj htail).1.symm
  rw [hwrite, text?, tripled?_eq_none (not_triple_isPrefix (by decide) _),
    tripled?_eq_none htriple]
  exact (if_neg (by decide)).trans ((if_pos rfl).trans (literalTail?_append h rest))

theorem text?_multiLiteral {cs : List Char} (h : ∀ c ∈ cs, needsEscape c = false)
    (hrun : longestRun '\x27' 0 cs ≤ 2) {rest : List Char} (hrest : rest.head? ≠ some '\x27') :
    text? (Form.multiLiteral.write cs ++ rest) = some (cs, rest) := by
  have hnewline : '\n' ∉ cs → newline? (cs ++ (triple '\x27' ++ rest)) = none := by
    intro hcs
    rcases cs with _ | ⟨c, cs⟩
    · rfl
    · refine newline?_cons (fun hn ↦ hcs (hn ▸ List.mem_cons_self)) ?_ _
      rintro rfl
      exact absurd (h _ List.mem_cons_self) (by decide)
  have hquotes : ∀ body, tripled? '"' (triple '\x27' ++ body) = none := fun body ↦
    tripled?_eq_none (not_triple_isPrefix (by decide) _)
  simp only [Form.write, List.append_assoc]
  rw [text?.eq_def, hquotes, tripled?_triple]
  simp only
  rw [skipNewline_firstBreak hnewline]
  exact multiLiteralTail?_append h hrest 0 hrun

theorem notMem_of_longestRun_eq_zero {q : Char} {cs : List Char} (h : longestRun q 0 cs = 0) :
    q ∉ cs := by
  induction cs with
  | nil => simp
  | cons c cs ih =>
    rw [longestRun] at h
    split at h
    · have hle := le_longestRun q cs (0 + 1)
      omega
    · rename_i hc
      rw [List.mem_cons]
      rintro (rfl | hmem)
      · exact hc rfl
      · exact ih (by omega) hmem

/-- **A text is read back in the form that is chosen for it**, and what follows is left. -/
theorem text?_write (cs : List Char) {rest : List Char} (hquote : rest.head? ≠ some '"')
    (hapostrophe : rest.head? ≠ some '\x27') :
    text? ((Form.choose cs).write cs ++ rest) = some (cs, rest) := by
  have hplain : (!cs.any needsEscape) = true → ∀ c ∈ cs, needsEscape c = false := by
    simp
  rw [Form.choose]
  split_ifs with h₁ h₂ h₃ h₄ h₅
  · exact text?_basic hquote
  · simp only [Bool.and_eq_true, decide_eq_true_iff] at h₂
    obtain ⟨⟨hescapes, hrun⟩, hlines⟩ := h₂
    refine text?_literal ?_ (fun c hc ↦ ⟨?_, ?_⟩) rest
    · rintro rfl
      exact h₁ rfl
    · rintro rfl
      exact notMem_of_longestRun_eq_zero hrun hc
    · refine isTextChar_of_not_needsEscape (hplain hescapes c hc) ?_
      rintro rfl
      simp [hc] at hlines
  · exact text?_multiBasic hquote
  · simp only [Bool.and_eq_true, decide_eq_true_iff] at h₄
    exact text?_multiLiteral (hplain h₄.1) h₄.2 hapostrophe
  · exact text?_multiBasic hquote
  · exact text?_basic hquote

end HostOverlay.Toml
