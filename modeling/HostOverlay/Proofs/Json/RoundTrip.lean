import HostOverlay.Json.Decode
import HostOverlay.Proofs.Json.Range

/-!
# Written and read back

A type of values that are exchanged as JSON has a writer `encode` and a decoder.  `RoundTrips` says
that the two belong together: the decoder takes the written value back, also after the value went
through a text, and what it reads from a text can be written again without loss.

The property is closed under lists (`RoundTrips.list`) and optional values (`RoundTrips.optional`),
so only the records and the choices of a project are left to be looked at.  For those, `choice` is
about names that differ, and `exists_of_record` about what the fields of a record can be.
-/

set_option autoImplicit false

namespace HostOverlay

variable {α β σ : Type}

/-- What `decode` makes of a text, `none` when the text is no JSON. -/
def Decoder.ofText (decode : Decoder α) (s : String) : Option (Except DecodeError α) :=
  (Json.parse? s).map decode

/-- A decoder that goes on with what it read has read it. -/
theorem Decoder.exists_of_bind {x : Except DecodeError α} {f : α → Except DecodeError β} {b : β}
    (h : x >>= f = .ok b) : ∃ a, x = .ok a ∧ f a = .ok b := by
  cases x with
  | error e => cases h
  | ok a => exact ⟨a, rfl, h⟩

@[simp] theorem Decoder.ok_bind (a : α) (f : α → Except DecodeError β) :
    (Except.ok a >>= f) = f a := rfl

@[simp] theorem Decoder.record_object (type : String) (fields : List (Field σ)) (start : σ)
    (finish : σ → Except DecodeError α) (entries : List (String × Json)) :
    record type fields start finish (.object entries) =
      readFields fields entries start >>= finish := rfl

@[simp] theorem Decoder.record_array (type : String) (fields : List (Field σ)) (start : σ)
    (finish : σ → Except DecodeError α) (items : List Json) :
    record type fields start finish (.array items) =
      readElements type fields.length items.length fields items 0 start >>= finish := rfl

/-- The decoder takes back what is written; `InRange` are the values whose numbers have room in a
text. -/
structure RoundTrips (encode : α → Json) (decode : Decoder α) (InRange : α → Prop) : Prop where
  decode_encode : ∀ a, decode (encode a) = .ok a
  /-- A text is read as the value with the names of its objects in order. -/
  decode_arranged : ∀ a, decode (encode a).arranged = .ok a
  isWhole : ∀ {a}, InRange a → (encode a).IsWhole
  inRange : ∀ {v a}, v.EachNumber Json.Number.FitsWord → decode v = .ok a → InRange a

namespace RoundTrips

variable {encode : α → Json} {decode : Decoder α} {InRange : α → Prop}

/-! ## Texts -/

theorem ofText_compact (h : RoundTrips encode decode InRange) {a : α} (ha : InRange a) :
    decode.ofText (encode a).compact = some (.ok a) := by
  rw [Decoder.ofText, Json.parse?_compact (h.isWhole ha), Option.map_some, h.decode_arranged]

/-- **The written text is read back**, with blanks behind it. -/
theorem ofText_pretty (h : RoundTrips encode decode InRange) {a : α} (ha : InRange a) {b : String}
    (hb : Json.IsBlanks b.toList) : decode.ofText ((encode a).pretty ++ b) = some (.ok a) := by
  rw [Decoder.ofText, Json.parse?_pretty (h.isWhole ha) hb, Option.map_some, h.decode_arranged]

/-- What is read from a text is in range. -/
theorem inRange_of_ofText (h : RoundTrips encode decode InRange) {s : String} {a : α}
    (hs : decode.ofText s = some (.ok a)) : InRange a := by
  obtain ⟨v, hv, ha⟩ := Option.map_eq_some_iff.1 hs
  exact h.inRange (Json.fitsWord_of_parse? hv) ha

/-! ## Lists and optional values -/

theorem list_map (h : ∀ a, decode (encode a) = .ok a) (as : List α) :
    Decoder.list decode (.array (as.map encode)) = .ok as := by
  rw [Decoder.list]
  induction as with
  | nil => rfl
  | cons a as ih =>
    rw [List.map_cons, List.mapM_cons, h, ih]
    rfl

theorem forall_of_mapM {item : β → Except DecodeError α} {P : α → Prop} {vs : List β} {as : List α}
    (hitem : ∀ v ∈ vs, ∀ a, item v = .ok a → P a) (h : vs.mapM item = .ok as) : ∀ a ∈ as, P a := by
  induction vs generalizing as with
  | nil =>
    obtain rfl := Except.ok.inj h
    exact fun _ ha ↦ nomatch ha
  | cons v vs ih =>
    rw [List.mapM_cons] at h
    obtain ⟨a, ha, h⟩ := Decoder.exists_of_bind h
    obtain ⟨rest, hrest, h⟩ := Decoder.exists_of_bind h
    obtain rfl := Except.ok.inj h
    refine List.forall_mem_cons.2 ⟨hitem v List.mem_cons_self a ha, ?_⟩
    exact ih (fun w hw ↦ hitem w (List.mem_cons_of_mem v hw)) hrest

theorem arrangedItems_map (as : List α) :
    Json.arrangedItems (as.map encode) = as.map fun a ↦ (encode a).arranged := by
  induction as with
  | nil => rfl
  | cons a as ih => rw [List.map_cons, Json.arrangedItems, ih, List.map_cons]

/-- **Lists of values are taken back when the values are.** -/
theorem list (h : RoundTrips encode decode InRange) :
    RoundTrips (fun as ↦ .array (as.map encode)) (Decoder.list decode)
      (fun as ↦ ∀ a ∈ as, InRange a) where
  decode_encode as := list_map h.decode_encode as
  decode_arranged as := by
    rw [Json.arranged, arrangedItems_map]
    exact list_map h.decode_arranged as
  isWhole {as} has := by
    refine Json.eachNumber_array_iff.2 fun v hv ↦ ?_
    obtain ⟨a, ha, rfl⟩ := List.mem_map.1 hv
    exact h.isWhole (has a ha)
  inRange {v as} hv has := by
    cases v with
    | array items =>
      have hitems := Json.eachNumber_array_iff.1 hv
      exact forall_of_mapM (fun w hw a ↦ h.inRange (hitems w hw)) has
    | _ => cases has

theorem arranged_ne_null {v : Json} (h : v ≠ .null) : v.arranged ≠ .null := by
  cases v with
  | null => exact absurd rfl h
  | _ =>
    rw [Json.arranged]
    exact fun h ↦ nomatch h

theorem optional_of_ne_null {v : Json} (h : v ≠ .null) :
    Decoder.optional decode v = (decode v).map some := by
  rw [Decoder.optional]
  exact h

/-- **Optional values are taken back when the values are**, and are not `null` themselves. -/
theorem optional (h : RoundTrips encode decode InRange) (hne : ∀ a, encode a ≠ .null) :
    RoundTrips (Json.ofOption encode) (Decoder.optional decode) (fun o ↦ ∀ a ∈ o, InRange a) where
  decode_encode o := by
    cases o with
    | none => rfl
    | some a =>
      rw [Json.ofOption, optional_of_ne_null (hne a), h.decode_encode]
      rfl
  decode_arranged o := by
    cases o with
    | none => rfl
    | some a =>
      rw [Json.ofOption, optional_of_ne_null (arranged_ne_null (hne a)), h.decode_arranged]
      rfl
  isWhole {o} ho := by
    cases o with
    | none => trivial
    | some a => exact h.isWhole (ho a rfl)
  inRange {v o} hv ho := by
    by_cases hnull : v = .null
    · subst hnull
      obtain rfl := Except.ok.inj ho
      exact fun _ ha ↦ nomatch ha
    · rw [optional_of_ne_null hnull] at ho
      cases hdecode : decode v with
      | error e =>
        rw [hdecode] at ho
        cases ho
      | ok a =>
        rw [hdecode] at ho
        obtain rfl := Except.ok.inj ho
        intro b hb
        obtain rfl := Option.some.inj hb
        exact h.inRange hv hdecode

/-! ## Plain values and choices -/

theorem text : RoundTrips Json.string Decoder.text (fun _ ↦ True) where
  decode_encode _ := rfl
  decode_arranged _ := rfl
  isWhole _ := trivial
  inRange _ _ := trivial

/-- **A choice is taken back when each of its names leads to the value it is the name of.** -/
theorem choice {all : List α} {name : α → String}
    (h : ∀ a, (all.find? fun b ↦ name b = name a) = some a) :
    RoundTrips (fun a ↦ .string (name a)) (Decoder.choice all name) (fun _ ↦ True) where
  decode_encode a := by simp [Decoder.choice, Decoder.named, h]
  decode_arranged a := by simp [Json.arranged, Decoder.choice, Decoder.named, h]
  isWhole _ := trivial
  inRange _ _ := trivial

end RoundTrips

/-! ## Records -/

namespace Decoder

/-- A field that is read leaves the draft as `P` wants it, when the numbers in it fit. -/
def Field.Keeps (f : Field σ) (P : σ → Prop) : Prop :=
  ∀ v s s', v.EachNumber Json.Number.FitsWord → P s → f.read v s = .ok s' → P s'

variable {fields : List (Field σ)} {P : σ → Prop}

/-- A field whose value is read by `item` and then put into the draft. -/
theorem Field.Keeps.of_item {item : Decoder β} {put : β → σ → σ} {name : String} {isRead : σ → Bool}
    {isOptional : Bool}
    (h : ∀ {v b s}, v.EachNumber Json.Number.FitsWord → item v = .ok b → P s → P (put b s)) :
    Field.Keeps ⟨name, fun v s ↦ return put (← item v) s, isRead, isOptional⟩ P := by
  intro v s s' hv hs hread
  obtain ⟨b, hb, hread⟩ := exists_of_bind hread
  obtain rfl := Except.ok.inj hread
  exact h hv hb hs

theorem of_readFields (hfields : ∀ f ∈ fields, f.Keeps P) {entries : List (String × Json)}
    (hentries : ∀ e ∈ entries, e.2.EachNumber Json.Number.FitsWord) {s s' : σ} (hs : P s)
    (h : readFields fields entries s = .ok s') : P s' := by
  induction entries generalizing s with
  | nil =>
    obtain rfl := Except.ok.inj h
    exact hs
  | cons e rest ih =>
    obtain ⟨he, hrest⟩ := List.forall_mem_cons.1 hentries
    rw [readFields] at h
    split at h
    · exact ih hrest hs h
    · rename_i f hfind
      split_ifs at h
      obtain ⟨s₁, hstep, h⟩ := exists_of_bind h
      exact ih hrest (hfields f (List.mem_of_find?_eq_some hfind) _ _ _ he hs hstep) h

theorem of_readElements (hfields : ∀ f ∈ fields, f.Keeps P) {type : String} {count total : Nat}
    {items : List Json} (hitems : ∀ v ∈ items, v.EachNumber Json.Number.FitsWord) {n : Nat}
    {s s' : σ} (hs : P s) (h : readElements type count total fields items n s = .ok s') : P s' := by
  induction fields generalizing items n s with
  | nil =>
    cases items with
    | nil =>
      obtain rfl := Except.ok.inj h
      exact hs
    | cons v rest => cases h
  | cons f fields ih =>
    obtain ⟨hf, hrest⟩ := List.forall_mem_cons.1 hfields
    cases items with
    | nil =>
      rw [readElements] at h
      split_ifs at h
      exact ih hrest hitems hs h
    | cons v items =>
      obtain ⟨hv, hitems⟩ := List.forall_mem_cons.1 hitems
      rw [readElements] at h
      obtain ⟨s₁, hstep, h⟩ := exists_of_bind h
      exact ih hrest hitems (hf _ _ _ hv hs hstep) h

/-- **A record that was read was made of a draft as its fields leave it**, in either form. -/
theorem exists_of_record (hfields : ∀ f ∈ fields, f.Keeps P) {type : String} {start : σ}
    {finish : σ → Except DecodeError α} (hstart : P start) {v : Json} {a : α}
    (hv : v.EachNumber Json.Number.FitsWord) (h : record type fields start finish v = .ok a) :
    ∃ s, P s ∧ finish s = .ok a := by
  cases v with
  | object entries =>
    obtain ⟨s, hread, h⟩ := exists_of_bind h
    exact ⟨s, of_readFields hfields (Json.eachNumber_object_iff.1 hv) hstart hread, h⟩
  | array items =>
    obtain ⟨s, hread, h⟩ := exists_of_bind h
    exact ⟨s, of_readElements hfields (Json.eachNumber_array_iff.1 hv) hstart hread, h⟩
  | _ => cases h

end Decoder

end HostOverlay
