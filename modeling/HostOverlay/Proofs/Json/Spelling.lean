import HostOverlay.Proofs.Json.Token
import Mathlib.Data.List.DropRight

/-!
# Values of JSON are read back

`Spells v text` is the grammar of JSON, as far as it is written here: the texts that have the parts
of `v` in the order of `v`, with blanks between them.  Both renderers write such texts, and the
reader takes every one of them to the value `v.arranged`, in which the names of an object stand in
order.

* `value?_of_spells`: a text that spells a value is read as it, whatever stands behind it.
* `spells_compact`, `spells_prettyAt`: the renderers spell what they write.
* `parse?_compact`, `parse?_pretty`: **what is written is read back**.
-/

set_option autoImplicit false

namespace HostOverlay.Json

/-! ## Blanks in front of a value -/

theorem isBlanks_nil : IsBlanks [] := fun _ h ↦ nomatch h

theorem isBlanks_singleton {c : Char} (h : isBlank c = true) : IsBlanks [c] :=
  List.forall_mem_singleton.2 h

theorem skipBlanks_skipBlanks (cs : List Char) : skipBlanks (skipBlanks cs) = skipBlanks cs :=
  List.dropWhile_idempotent _ _

theorem value?_skipBlanks (depth : Nat) (cs : List Char) :
    value? depth (skipBlanks cs) = value? depth cs := by
  cases depth with
  | zero => rw [value?, value?]
  | succ depth => rw [value?, value?, skipBlanks_skipBlanks]

theorem items?_skipBlanks (depth : Nat) (cs : List Char) :
    items? depth (skipBlanks cs) = items? depth cs := by
  cases depth with
  | zero => rw [items?, items?]
  | succ depth => rw [items?, items?, value?_skipBlanks]

theorem fields?_skipBlanks (depth : Nat) (cs : List Char) :
    fields? depth (skipBlanks cs) = fields? depth cs := by
  cases depth with
  | zero => rw [fields?, fields?]
  | succ depth => rw [fields?, fields?, skipBlanks_skipBlanks]

theorem value?_append {b : List Char} (h : IsBlanks b) (depth : Nat) (cs : List Char) :
    value? depth (b ++ cs) = value? depth cs := by
  rw [← value?_skipBlanks, skipBlanks_append h, value?_skipBlanks]

theorem fields?_append {b : List Char} (h : IsBlanks b) (depth : Nat) (cs : List Char) :
    fields? depth (b ++ cs) = fields? depth cs := by
  rw [← fields?_skipBlanks, skipBlanks_append h, fields?_skipBlanks]

/-! ## The reader, by the first character -/

/-- An array that has elements. -/
theorem value?_array {depth : Nat} {cs : List Char} (h : (skipBlanks cs).head? ≠ some ']') :
    value? (depth + 1) ('[' :: cs) = (items? depth cs).map fun (vs, r) ↦ (.array vs, r) := by
  rw [value?, skipBlanks_cons (by decide)]
  simp only
  split
  · rename_i heq
    exact absurd (congrArg List.head? heq) h
  · rw [items?_skipBlanks]

/-- An object that has fields. -/
theorem value?_object {depth : Nat} {cs : List Char} (h : (skipBlanks cs).head? ≠ some '}') :
    value? (depth + 1) ('{' :: cs) = (fields? depth cs).map fun (fs, r) ↦
      (.object (fs.foldl (fun acc (k, v) ↦ insertField k v acc) []), r) := by
  rw [value?, skipBlanks_cons (by decide)]
  simp only
  split
  · rename_i heq
    exact absurd (congrArg List.head? heq) h
  · rw [fields?_skipBlanks]

/-- A text in quotes. -/
theorem value?_quote (depth : Nat) (s : String) (rest : List Char) :
    value? (depth + 1) ((quote s).toList ++ rest) = some (.string s, rest) := by
  rw [toList_quote, List.cons_append, List.append_assoc, value?, skipBlanks_cons (by decide)]
  simp only [List.singleton_append, stringTail?_flatMap_escapeChar, Option.map_some,
    String.ofList_toList]

/-- What a number begins with is no blank. -/
theorem isBlank_of_startsNumber {c : Char} (h : Text.isDigit c = true ∨ c = '-') :
    isBlank c = false := by
  rw [← Bool.not_eq_true]
  intro hc
  simp only [isBlank, Bool.or_eq_true, decide_eq_true_eq] at hc
  rcases hc with ((rfl | rfl) | rfl) | rfl <;> exact absurd h (by decide)

/-- A number, by its sign or its first digit. -/
theorem value?_number {c : Char} (h : Text.isDigit c = true ∨ c = '-') (depth : Nat)
    (cs : List Char) :
    value? (depth + 1) (c :: cs) = (number? (c :: cs)).map fun (n, r) ↦ (.number n, r) := by
  rw [value?, skipBlanks_cons (isBlank_of_startsNumber h)]
  split
  case h_7 => rfl
  all_goals
    rename_i heq
    obtain ⟨rfl, -⟩ := List.cons.inj heq
    exact absurd h (by decide)

/-- The last element of an array. -/
theorem items?_last {depth : Nat} {cs r rest : List Char} {v : Json}
    (hvalue : value? depth cs = some (v, r)) (hr : skipBlanks r = ']' :: rest) :
    items? (depth + 1) cs = some ([v], rest) := by
  rw [items?, hvalue]
  simp only [hr]

/-- An element of an array with more elements behind it. -/
theorem items?_cons {depth : Nat} {cs r r' rest : List Char} {v : Json} {vs : List Json}
    (hvalue : value? depth cs = some (v, r)) (hr : skipBlanks r = ',' :: r')
    (hitems : items? depth r' = some (vs, rest)) :
    items? (depth + 1) cs = some (v :: vs, rest) := by
  rw [items?, hvalue]
  simp only [hr, hitems, Option.map_some]

/-- The last field of an object. -/
theorem fields?_last {depth : Nat} {k : String} {cs r rest : List Char} {v : Json}
    (hvalue : value? depth cs = some (v, r)) (hr : skipBlanks r = '}' :: rest) :
    fields? (depth + 1) ((quote k).toList ++ (':' :: cs)) = some ([(k, v)], rest) := by
  rw [toList_quote, List.cons_append, List.append_assoc, fields?, skipBlanks_cons (by decide)]
  simp only [List.singleton_append, stringTail?_flatMap_escapeChar,
    skipBlanks_cons (show isBlank ':' = false by decide), hvalue, hr, String.ofList_toList]

/-- A field of an object with more fields behind it. -/
theorem fields?_cons {depth : Nat} {k : String} {cs r r' rest : List Char} {v : Json}
    {fs : List (String × Json)} (hvalue : value? depth cs = some (v, r))
    (hr : skipBlanks r = ',' :: r') (hfields : fields? depth r' = some (fs, rest)) :
    fields? (depth + 1) ((quote k).toList ++ (':' :: cs)) = some ((k, v) :: fs, rest) := by
  rw [toList_quote, List.cons_append, List.append_assoc, fields?, skipBlanks_cons (by decide)]
  simp only [List.singleton_append, stringTail?_flatMap_escapeChar,
    skipBlanks_cons (show isBlank ':' = false by decide), hvalue, hr, hfields, Option.map_some,
    String.ofList_toList]

/-! ## The grammar -/

mutual

/-- The texts of a value. -/
inductive Spells : Json → List Char → Prop
  | null : Spells .null "null".toList
  | bool (b : Bool) : Spells (.bool b) (if b then "true" else "false").toList
  | number {n : Number} (h : n.IsWord) : Spells (.number n) n.text.toList
  | string (s : String) : Spells (.string s) (quote s).toList
  | noItems : Spells (.array []) ['[', ']']
  | array {items : List Json} {text : List Char} (h : SpellsItems items text) :
      Spells (.array items) ('[' :: text)
  | noFields : Spells (.object []) ['{', '}']
  | object {fields : List (String × Json)} {text : List Char} (h : SpellsFields fields text) :
      Spells (.object fields) ('{' :: text)

/-- The texts of the elements of an array that has at least one, with the closing bracket. -/
inductive SpellsItems : List Json → List Char → Prop
  | last {v : Json} {b b' text : List Char} (hb : IsBlanks b) (hv : Spells v text)
      (hb' : IsBlanks b') : SpellsItems [v] (b ++ (text ++ (b' ++ [']'])))
  | cons {v : Json} {vs : List Json} {b text text' : List Char} (hb : IsBlanks b)
      (hv : Spells v text) (hvs : SpellsItems vs text') :
      SpellsItems (v :: vs) (b ++ (text ++ (',' :: text')))

/-- The texts of the fields of an object that has at least one, with the closing brace. -/
inductive SpellsFields : List (String × Json) → List Char → Prop
  | last (k : String) {v : Json} {b gap b' text : List Char} (hb : IsBlanks b)
      (hgap : IsBlanks gap) (hv : Spells v text) (hb' : IsBlanks b') :
      SpellsFields [(k, v)] (b ++ ((quote k).toList ++ (':' :: (gap ++ (text ++ (b' ++ ['}']))))))
  | cons (k : String) {v : Json} {fs : List (String × Json)} {b gap text text' : List Char}
      (hb : IsBlanks b) (hgap : IsBlanks gap) (hv : Spells v text)
      (hfs : SpellsFields fs text') :
      SpellsFields ((k, v) :: fs)
        (b ++ ((quote k).toList ++ (':' :: (gap ++ (text ++ (',' :: text'))))))

end

mutual

/-- The value with the names of each object in order, which is how the reader leaves it. -/
def arranged : Json → Json
  | .array items => .array (arrangedItems items)
  | .object fields =>
    .object ((arrangedFields fields).foldl (fun acc (k, v) ↦ insertField k v acc) [])
  | .null => .null
  | .bool b => .bool b
  | .number n => .number n
  | .string s => .string s

/-- Elements whose objects are in order. -/
def arrangedItems : List Json → List Json
  | [] => []
  | v :: rest => v.arranged :: arrangedItems rest

/-- Fields whose values are in order; the fields themselves stay where they are. -/
def arrangedFields : List (String × Json) → List (String × Json)
  | [] => []
  | (k, v) :: rest => (k, v.arranged) :: arrangedFields rest

end

/-! ## Reading a text of the grammar -/

/-- What a value begins with is no blank and closes nothing. -/
theorem Spells.exists_eq_cons {v : Json} {text : List Char} (h : Spells v text) :
    ∃ c cs, text = c :: cs ∧ isBlank c = false ∧ c ≠ ']' := by
  cases h with
  | null => exact ⟨_, _, rfl, by decide, by decide⟩
  | bool b => cases b <;> exact ⟨_, _, rfl, by decide, by decide⟩
  | number hn =>
    obtain ⟨c, cs, hcs, hc⟩ := hn.exists_text_eq_cons
    have hne : c ≠ ']' := by
      rintro rfl
      exact absurd hc (by decide)
    exact ⟨c, cs, hcs, isBlank_of_startsNumber hc, hne⟩
  | string s => exact ⟨_, _, toList_quote s, by decide, by decide⟩
  | noItems => exact ⟨_, _, rfl, by decide, by decide⟩
  | array _ => exact ⟨_, _, rfl, by decide, by decide⟩
  | noFields => exact ⟨_, _, rfl, by decide, by decide⟩
  | object _ => exact ⟨_, _, rfl, by decide, by decide⟩

theorem Spells.head?_skipBlanks {v : Json} {text : List Char} (h : Spells v text) {b : List Char}
    (hb : IsBlanks b) (rest : List Char) : (skipBlanks (b ++ (text ++ rest))).head? ≠ some ']' := by
  obtain ⟨c, cs, rfl, hc, hne⟩ := h.exists_eq_cons
  rw [skipBlanks_append hb, List.cons_append, skipBlanks_cons hc]
  exact fun h ↦ hne (Option.some.inj h)

theorem SpellsItems.head?_skipBlanks {vs : List Json} {text : List Char} (h : SpellsItems vs text)
    (rest : List Char) : (skipBlanks (text ++ rest)).head? ≠ some ']' := by
  cases h with
  | last hb hv _ => simpa using hv.head?_skipBlanks hb _
  | cons hb hv _ => simpa using hv.head?_skipBlanks hb _

theorem SpellsFields.head?_skipBlanks {fs : List (String × Json)} {text : List Char}
    (h : SpellsFields fs text) (rest : List Char) :
    (skipBlanks (text ++ rest)).head? ≠ some '}' := by
  cases h with
  | last k hb _ _ _ =>
    rw [List.append_assoc, skipBlanks_append hb, toList_quote]
    exact fun h ↦ absurd (Option.some.inj h) (by decide)
  | cons k hb _ _ _ =>
    rw [List.append_assoc, skipBlanks_append hb, toList_quote]
    exact fun h ↦ absurd (Option.some.inj h) (by decide)

/-- A blank, a comma and a closing bracket end a number. -/
theorem endsNumber_cons {c : Char} (h : isBlank c = true ∨ c ∈ [',', ']', '}']) (cs : List Char) :
    EndsNumber (c :: cs) := by
  intro d hd
  obtain rfl : c = d := Option.some.inj hd
  rcases h with h | h
  · simp only [isBlank, Bool.or_eq_true, decide_eq_true_eq] at h
    rcases h with ((rfl | rfl) | rfl) | rfl <;> decide
  · simp only [List.mem_cons, List.not_mem_nil, or_false] at h
    rcases h with rfl | rfl | rfl <;> decide

theorem IsBlanks.endsNumber_append {b : List Char} (hb : IsBlanks b) {cs : List Char}
    (hcs : EndsNumber cs) : EndsNumber (b ++ cs) := by
  cases b with
  | nil => exact hcs
  | cons c b => exact endsNumber_cons (.inl (hb c List.mem_cons_self)) _

mutual

/-- **A text that spells a value is read as it**, in order, whatever stands behind it.  The depth
that the reader needs is no more than the length of the text. -/
theorem value?_of_spells {v : Json} {text : List Char} (h : Spells v text) {depth : Nat}
    (hdepth : text.length ≤ depth) {rest : List Char} (hrest : EndsNumber rest) :
    value? depth (text ++ rest) = some (v.arranged, rest) := by
  obtain ⟨depth, rfl⟩ : ∃ d, depth = d + 1 := by
    obtain ⟨c, cs, rfl, -, -⟩ := h.exists_eq_cons
    rw [List.length_cons] at hdepth
    exact ⟨depth - 1, by omega⟩
  cases h with
  | null => rfl
  | bool b => cases b <;> rfl
  | number hn =>
    obtain ⟨c, cs, hcs, hc⟩ := hn.exists_text_eq_cons
    have hnumber := number?_text hn hrest
    rw [hcs, List.cons_append] at hnumber ⊢
    rw [value?_number hc, hnumber]
    rfl
  | string s => exact value?_quote depth s rest
  | noItems => rfl
  | array hitems =>
    rw [List.cons_append, value?_array (hitems.head?_skipBlanks rest),
      items?_of_spells hitems (Nat.le_of_succ_le_succ hdepth) rest]
    rfl
  | noFields => rfl
  | object hfields =>
    rw [List.cons_append, value?_object (hfields.head?_skipBlanks rest),
      fields?_of_spells hfields (Nat.le_of_succ_le_succ hdepth) rest]
    rfl

/-- The same for the elements of an array. -/
theorem items?_of_spells {vs : List Json} {text : List Char} (h : SpellsItems vs text)
    {depth : Nat} (hdepth : text.length ≤ depth) (rest : List Char) :
    items? depth (text ++ rest) = some (arrangedItems vs, rest) := by
  cases h with
  | @last v b b' text hb hv hb' =>
    simp only [List.length_append, List.length_singleton] at hdepth
    obtain ⟨depth, rfl⟩ : ∃ d, depth = d + 1 := ⟨depth - 1, by omega⟩
    have hvalue : value? depth (b ++ (text ++ (b' ++ ']' :: rest))) =
        some (v.arranged, b' ++ ']' :: rest) := by
      rw [value?_append hb]
      exact value?_of_spells hv (by omega)
        (hb'.endsNumber_append (endsNumber_cons (.inr (by simp)) rest))
    simpa [arrangedItems] using items?_last hvalue (skipBlanks_append hb' _)
  | @cons v vs b text text' hb hv hvs =>
    simp only [List.length_append, List.length_cons] at hdepth
    obtain ⟨depth, rfl⟩ : ∃ d, depth = d + 1 := ⟨depth - 1, by omega⟩
    have hvalue : value? depth (b ++ (text ++ (',' :: (text' ++ rest)))) =
        some (v.arranged, ',' :: (text' ++ rest)) := by
      rw [value?_append hb]
      exact value?_of_spells hv (by omega) (endsNumber_cons (.inr (by simp)) _)
    have hitems : items? depth (text' ++ rest) = some (arrangedItems vs, rest) :=
      items?_of_spells hvs (by omega) rest
    simpa [arrangedItems] using items?_cons hvalue (skipBlanks_cons (by decide) _) hitems

/-- The same for the fields of an object. -/
theorem fields?_of_spells {fs : List (String × Json)} {text : List Char} (h : SpellsFields fs text)
    {depth : Nat} (hdepth : text.length ≤ depth) (rest : List Char) :
    fields? depth (text ++ rest) = some (arrangedFields fs, rest) := by
  cases h with
  | @last k v b gap b' text hb hgap hv hb' =>
    simp only [List.length_append, List.length_cons] at hdepth
    obtain ⟨depth, rfl⟩ : ∃ d, depth = d + 1 := ⟨depth - 1, by omega⟩
    have hvalue : value? depth (gap ++ (text ++ (b' ++ '}' :: rest))) =
        some (v.arranged, b' ++ '}' :: rest) := by
      rw [value?_append hgap]
      exact value?_of_spells hv (by omega)
        (hb'.endsNumber_append (endsNumber_cons (.inr (by simp)) rest))
    rw [List.append_assoc, fields?_append hb]
    simpa [arrangedFields] using fields?_last hvalue (skipBlanks_append hb' _)
  | @cons k v fs b gap text text' hb hgap hv hfs =>
    simp only [List.length_append, List.length_cons] at hdepth
    obtain ⟨depth, rfl⟩ : ∃ d, depth = d + 1 := ⟨depth - 1, by omega⟩
    have hvalue : value? depth (gap ++ (text ++ (',' :: (text' ++ rest)))) =
        some (v.arranged, ',' :: (text' ++ rest)) := by
      rw [value?_append hgap]
      exact value?_of_spells hv (by omega) (endsNumber_cons (.inr (by simp)) _)
    have hfields : fields? depth (text' ++ rest) = some (arrangedFields fs, rest) :=
      fields?_of_spells hfs (by omega) rest
    rw [List.append_assoc, fields?_append hb]
    simpa [arrangedFields] using fields?_cons hvalue (skipBlanks_cons (by decide) _) hfields

end

/-- **A text that spells a value, with blanks behind it, is the JSON of the value.** -/
theorem parse?_of_spells {v : Json} {s : String} {text b : List Char} (h : Spells v text)
    (hb : IsBlanks b) (hs : s.toList = text ++ b) : parse? s = some v.arranged := by
  have hends : EndsNumber b := by
    rw [← List.append_nil b]
    exact hb.endsNumber_append fun _ hc ↦ nomatch hc
  have hdepth : text.length ≤ 2 * s.toList.length + 2 := by
    rw [hs, List.length_append]
    omega
  have hvalue := value?_of_spells h hdepth hends
  have hblank : skipBlanks b = [] := by
    rw [← List.append_nil b, skipBlanks_append hb]
    rfl
  rw [← hs] at hvalue
  simp only [parse?, hvalue, hblank, List.isEmpty_nil, if_true]

/-! ## What the renderers write -/

mutual

/-- Does every number in the value have the property `P`? -/
def EachNumber (P : Number → Prop) : Json → Prop
  | .number n => P n
  | .array items => EachNumberOfItems P items
  | .object fields => EachNumberOfFields P fields
  | .null => True
  | .bool _ => True
  | .string _ => True

/-- Does every number in the elements of an array have the property `P`? -/
def EachNumberOfItems (P : Number → Prop) : List Json → Prop
  | [] => True
  | v :: rest => v.EachNumber P ∧ EachNumberOfItems P rest

/-- Does every number in the fields of an object have the property `P`? -/
def EachNumberOfFields (P : Number → Prop) : List (String × Json) → Prop
  | [] => True
  | (_, v) :: rest => v.EachNumber P ∧ EachNumberOfFields P rest

end

theorem eachNumber_array_iff {P : Number → Prop} {items : List Json} :
    (Json.array items).EachNumber P ↔ ∀ v ∈ items, v.EachNumber P := by
  rw [EachNumber]
  induction items with
  | nil => simp [EachNumberOfItems]
  | cons v rest ih => simp [EachNumberOfItems, ih]

theorem eachNumber_object_iff {P : Number → Prop} {fields : List (String × Json)} :
    (Json.object fields).EachNumber P ↔ ∀ f ∈ fields, f.2.EachNumber P := by
  rw [EachNumber]
  induction fields with
  | nil => simp [EachNumberOfFields]
  | cons f rest ih => simp [EachNumberOfFields, ih]

/-- Is every number in the value an integer of 64 bits? -/
def IsWhole (v : Json) : Prop := v.EachNumber Number.IsWord

/-- The text of one field of an object: the blanks behind the colon are `gap`. -/
def SpellsField (gap : String) (f : String × Json) (s : String) : Prop :=
  ∃ text, Spells f.2 text ∧ s.toList = (quote f.1).toList ++ (':' :: (gap.toList ++ text))

/-- Elements with commas between them, blanks in front of each and behind the last. -/
theorem spellsItems_intercalate (gap b : String) (hgap : IsBlanks gap.toList)
    (hb : IsBlanks b.toList) {vs : List Json} {texts : List String} (hne : vs ≠ [])
    (h : List.Forall₂ (fun v s ↦ Spells v s.toList) vs texts) :
    SpellsItems vs (gap ++ String.intercalate ("," ++ gap) texts ++ b ++ "]").toList := by
  induction h with
  | nil => exact absurd rfl hne
  | cons hv hvs ih =>
    cases hvs with
    | nil => simpa using SpellsItems.last hgap hv hb
    | cons _ _ =>
      rw [String.intercalate_cons_cons]
      simpa using SpellsItems.cons hgap hv (ih (List.cons_ne_nil _ _))

/-- Fields with commas between them, blanks in front of each and behind the last. -/
theorem spellsFields_intercalate (gap b colonGap : String) (hgap : IsBlanks gap.toList)
    (hb : IsBlanks b.toList) (hcolon : IsBlanks colonGap.toList) {fs : List (String × Json)}
    {texts : List String} (hne : fs ≠ [])
    (h : List.Forall₂ (SpellsField colonGap) fs texts) :
    SpellsFields fs (gap ++ String.intercalate ("," ++ gap) texts ++ b ++ "\x7d").toList := by
  induction h with
  | nil => exact absurd rfl hne
  | @cons f _ _ _ hf hfs ih =>
    obtain ⟨text, hv, htext⟩ := hf
    cases hfs with
    | nil => simpa [htext] using SpellsFields.last f.1 hgap hcolon hv hb
    | cons _ _ =>
      rw [String.intercalate_cons_cons]
      simpa [htext] using SpellsFields.cons f.1 hgap hcolon hv (ih (List.cons_ne_nil _ _))

mutual

/-- **The text of a value on one line spells the value.** -/
theorem spells_compact (v : Json) (h : v.IsWhole) : Spells v v.compact.toList := by
  cases v with
  | null => exact .null
  | bool b => exact .bool b
  | number n => exact .number h
  | string s => exact .string s
  | array items =>
    cases items with
    | nil => exact .noItems
    | cons v vs =>
      have hitems := spellsItems_intercalate "" "" isBlanks_nil isBlanks_nil (List.cons_ne_nil v vs)
        (spells_compactItems (v :: vs) h)
      simpa [compact] using Spells.array hitems
  | object fields =>
    cases fields with
    | nil => exact .noFields
    | cons f fs =>
      have hfields := spellsFields_intercalate "" "" "" isBlanks_nil isBlanks_nil isBlanks_nil
        (List.cons_ne_nil f fs) (spells_compactFields (f :: fs) h)
      simpa [compact] using Spells.object hfields

theorem spells_compactItems (vs : List Json) (h : EachNumberOfItems Number.IsWord vs) :
    List.Forall₂ (fun v s ↦ Spells v s.toList) vs (compactItems vs) := by
  match vs, h with
  | [], _ => exact .nil
  | v :: vs, h => exact .cons (spells_compact v h.1) (spells_compactItems vs h.2)

theorem spells_compactFields (fs : List (String × Json)) (h : EachNumberOfFields Number.IsWord fs) :
    List.Forall₂ (SpellsField "") fs (compactFields fs) := by
  match fs, h with
  | [], _ => exact .nil
  | (k, v) :: fs, h =>
    exact .cons ⟨_, spells_compact v h.1, by simp⟩ (spells_compactFields fs h.2)

end

theorem isBlanks_newline (n : Nat) : IsBlanks (newline n).toList := by
  intro c hc
  have htext : (newline n).toList = '\n' :: List.replicate (2 * n) ' ' := by simp [newline]
  rw [htext, List.mem_cons] at hc
  rcases hc with rfl | hc
  · rfl
  · obtain rfl := List.eq_of_mem_replicate hc
    rfl

mutual

/-- **The text of a value over several lines spells the value.** -/
theorem spells_prettyAt (n : Nat) (v : Json) (h : v.IsWhole) : Spells v (prettyAt n v).toList := by
  cases v with
  | null => exact .null
  | bool b => exact .bool b
  | number m => exact .number h
  | string s => exact .string s
  | array items =>
    cases items with
    | nil =>
      rw [prettyAt, prettyItems, enclose]
      exact .noItems
    | cons v vs =>
      have hitems := spellsItems_intercalate _ _ (isBlanks_newline (n + 1)) (isBlanks_newline n)
        (List.cons_ne_nil v vs) (spells_prettyItems (n + 1) (v :: vs) h)
      simpa [prettyAt, prettyItems, enclose] using Spells.array hitems
  | object fields =>
    cases fields with
    | nil =>
      rw [prettyAt, prettyFields, enclose]
      exact .noFields
    | cons f fs =>
      have hfields := spellsFields_intercalate _ _ " " (isBlanks_newline (n + 1))
        (isBlanks_newline n) (isBlanks_singleton rfl) (List.cons_ne_nil f fs) (spells_prettyFields (n + 1) (f :: fs) h)
      simpa [prettyAt, prettyFields, enclose] using Spells.object hfields

theorem spells_prettyItems (n : Nat) (vs : List Json) (h : EachNumberOfItems Number.IsWord vs) :
    List.Forall₂ (fun v s ↦ Spells v s.toList) vs (prettyItems n vs) := by
  match vs, h with
  | [], _ => exact .nil
  | v :: vs, h => exact .cons (spells_prettyAt n v h.1) (spells_prettyItems n vs h.2)

theorem spells_prettyFields (n : Nat) (fs : List (String × Json))
    (h : EachNumberOfFields Number.IsWord fs) :
    List.Forall₂ (SpellsField " ") fs (prettyFields n fs) := by
  match fs, h with
  | [], _ => exact .nil
  | (k, v) :: fs, h =>
    exact .cons ⟨_, spells_prettyAt n v h.1, by simp⟩ (spells_prettyFields n fs h.2)

end

/-- **What is written on one line is read back.** -/
theorem parse?_compact {v : Json} (h : v.IsWhole) : parse? v.compact = some v.arranged :=
  parse?_of_spells (spells_compact v h) isBlanks_nil (List.append_nil _).symm

/-- **What is written over several lines is read back**, with blanks behind it. -/
theorem parse?_pretty {v : Json} (h : v.IsWhole) {b : String} (hb : IsBlanks b.toList) :
    parse? (v.pretty ++ b) = some v.arranged :=
  parse?_of_spells (spells_prettyAt 0 v h) hb String.toList_append

end HostOverlay.Json
