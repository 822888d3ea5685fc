import HostOverlay.Settings

/-!
# Reading the settings of a configuration entry

A record is read from an object field by field, in the order of the object, and a field that is
there twice is refused.  So in a record that was read, each field comes from the one value under its
name, or was never touched.  `Holds` says of a part of the record what has to be known for this, and
`Holds.of_readFields` is the run over the fields of the object.

For settings this means that each of them is the text under its key, or the default when the key is
not there (`ofEntry_object`).
-/

set_option autoImplicit false

namespace HostOverlay

namespace Decoder

variable {σ β : Type}

/-- What the field reads is put into the part `get` of a record, after `item` has read it. -/
structure Field.ReadsInto (f : Field σ) (item : Decoder β) (get : σ → Option β) : Prop where
  isRead : ∀ s, f.isRead s = (get s).isSome
  read : ∀ {v s s'}, f.read v s = .ok s' → ∃ b, item v = .ok b ∧ get s' = some b

/-- What the field reads is put elsewhere. -/
def Field.Leaves (f : Field σ) (get : σ → Option β) : Prop :=
  ∀ v s s', f.read v s = .ok s' → get s' = get s

/-- The part `get` of a record holds what `item` makes of the value under `key`, and nothing else
is put there. -/
structure Holds (fields : List (Field σ)) (key : String) (item : Decoder β)
    (get : σ → Option β) : Prop where
  named : ∃ f ∈ fields, f.name = key
  own : ∀ f ∈ fields, f.name = key → f.ReadsInto item get
  other : ∀ f ∈ fields, f.name ≠ key → f.Leaves get

/-- **A part of a record that was read is what the object says, or as it was before.** -/
theorem Holds.of_readFields {fields : List (Field σ)} {key : String} {item : Decoder β}
    {get : σ → Option β} (h : Holds fields key item get) {entries : List (String × Json)} :
    ∀ {s s' : σ}, readFields fields entries s = .ok s' →
      (Json.lookup key entries = none ∧ get s' = get s) ∨
        ∃ v b, Json.lookup key entries = some v ∧ item v = .ok b ∧ get s = none ∧
          get s' = some b := by
  induction entries with
  | nil =>
    intro s s' hread
    obtain rfl := Except.ok.inj hread
    exact .inl ⟨rfl, rfl⟩
  | cons e rest ih =>
    intro s s' hread
    obtain ⟨k, v⟩ := e
    rw [readFields] at hread
    cases hfind : fields.find? fun f => f.name = k with
    | none =>
      -- a name that no field has cannot be the key
      rw [hfind] at hread
      have hk : k ≠ key := by
        rintro rfl
        obtain ⟨f, hf, hname⟩ := h.named
        exact List.find?_eq_none.1 hfind f hf (by simpa using hname)
      rw [Json.lookup, if_neg hk]
      exact ih hread
    | some f =>
      have hmem := List.mem_of_find?_eq_some hfind
      have hname : f.name = k := by simpa using List.find?_some hfind
      rw [hfind] at hread
      simp only at hread
      split at hread
      · cases hread
      rename_i hunread
      cases hstep : f.read v s with
      | error e =>
        rw [hstep] at hread
        cases hread
      | ok s₁ =>
        rw [hstep] at hread
        by_cases hk : k = key
        · subst hk
          have hown := h.own f hmem hname
          obtain ⟨b, hitem, hget⟩ := hown.read hstep
          have hnone : get s = none := by
            rw [hown.isRead] at hunread
            simpa using hunread
          rw [Json.lookup, if_pos rfl]
          rcases ih hread with ⟨-, hrest⟩ | ⟨_, _, -, -, htwice, -⟩
          · exact .inr ⟨v, b, rfl, hitem, hnone, hrest.trans hget⟩
          · rw [hget] at htwice
            cases htwice
        · rw [Json.lookup, if_neg hk, ← h.other f hmem (hname ▸ hk) v s s₁ hstep]
          exact ih hread

theorem text_eq_ok {v : Json} {s : String} (h : text v = .ok s) : v = .string s := by
  cases v with
  | string t => rw [Except.ok.inj h]
  | _ => cases h

end Decoder

namespace Settings

/-! ## Settings -/

/-- A field of a draft that takes a text. -/
def textField (key : String) (get : Draft → Option String) (put : String → Draft → Draft) :
    Decoder.Field Draft :=
  ⟨key, fun v d => return put (← Decoder.text v) d, fun d => (get d).isSome, true⟩

theorem fields_eq : fields =
    [textField definitionKey Draft.definitionFile fun t d => { d with definitionFile := some t },
      textField placeholderKey Draft.placeholderSource
        fun t d => { d with placeholderSource := some t }] := rfl

section

variable {key : String} {get : Draft → Option String} {put : String → Draft → Draft}

theorem of_read_textField {v : Json} {d d' : Draft}
    (h : (textField key get put).read v d = .ok d') :
    ∃ t, Decoder.text v = .ok t ∧ d' = put t d := by
  simp only [textField] at h
  cases hv : Decoder.text v with
  | error e =>
    rw [hv] at h
    cases h
  | ok t =>
    rw [hv] at h
    exact ⟨t, rfl, (Except.ok.inj h).symm⟩

theorem readsInto_textField (h : ∀ t d, get (put t d) = some t) :
    (textField key get put).ReadsInto Decoder.text get where
  isRead _ := rfl
  read hread := by
    obtain ⟨t, ht, rfl⟩ := of_read_textField hread
    exact ⟨t, ht, h t _⟩

theorem leaves_textField {get' : Draft → Option String} (h : ∀ t d, get' (put t d) = get' d) :
    (textField key get put).Leaves get' := by
  intro v d d' hread
  obtain ⟨t, -, rfl⟩ := of_read_textField hread
  exact h t d

end

theorem holds_definitionFile :
    Decoder.Holds fields definitionKey Decoder.text Draft.definitionFile where
  named := ⟨_, List.mem_cons_self, rfl⟩
  own := by
    rw [fields_eq, List.forall_mem_cons, List.forall_mem_singleton]
    exact ⟨fun _ ↦ readsInto_textField fun _ _ ↦ rfl, fun hname ↦ absurd hname (by decide)⟩
  other := by
    rw [fields_eq, List.forall_mem_cons, List.forall_mem_singleton]
    exact ⟨fun hname ↦ absurd rfl hname, fun _ ↦ leaves_textField fun _ _ ↦ rfl⟩

theorem holds_placeholderSource :
    Decoder.Holds fields placeholderKey Decoder.text Draft.placeholderSource where
  named := ⟨_, List.mem_cons_of_mem _ List.mem_cons_self, rfl⟩
  own := by
    rw [fields_eq, List.forall_mem_cons, List.forall_mem_singleton]
    exact ⟨fun hname ↦ absurd hname (by decide), fun _ ↦ readsInto_textField fun _ _ ↦ rfl⟩
  other := by
    rw [fields_eq, List.forall_mem_cons, List.forall_mem_singleton]
    exact ⟨fun _ ↦ leaves_textField fun _ _ ↦ rfl, fun hname ↦ absurd rfl hname⟩

/-- The setting is the text that `fields` have under its key, or the default if they have none. -/
def IsGiven (fields : List (String × Json)) (key default setting : String) : Prop :=
  Json.lookup key fields = some (.string setting) ∨
    Json.lookup key fields = none ∧ setting = default

/-- What is read into a part of a draft that was empty, with the default for it. -/
theorem isGiven_of_holds {key default : String} {get : Draft → Option String} {d : Draft}
    {entries : List (String × Json)} (h : Decoder.Holds fields key Decoder.text get)
    (hread : Decoder.readFields fields entries {} = .ok d) (hempty : get {} = none) :
    IsGiven entries key default ((get d).getD default) := by
  rcases h.of_readFields hread with ⟨hlookup, hget⟩ | ⟨v, t, hlookup, hv, -, hget⟩
  · rw [hget, hempty]
    exact .inr ⟨hlookup, rfl⟩
  · rw [Decoder.text_eq_ok hv] at hlookup
    rw [hget]
    exact .inl hlookup

/-- **The settings of an object** are the texts under their keys, with defaults for those that are
not there. -/
theorem ofEntry_object {fields : List (String × Json)} {s : Settings}
    (h : ofEntry (.object fields) = .ok s) :
    IsGiven fields definitionKey ({} : Settings).definitionFile s.definitionFile ∧
      IsGiven fields placeholderKey ({} : Settings).placeholderSource s.placeholderSource := by
  have hname : definitionKey ≠ "name" ∧ placeholderKey ≠ "name" := by decide
  cases hread : Decoder.readFields Settings.fields (Json.eraseField "name" fields) {} with
  | error e =>
    rw [ofEntry, decoder, Decoder.record, hread] at h
    cases h
  | ok d =>
    rw [ofEntry, decoder, Decoder.record, hread] at h
    obtain rfl := Except.ok.inj h
    rw [IsGiven, IsGiven, ← Json.lookup_eraseField_of_ne hname.1,
      ← Json.lookup_eraseField_of_ne hname.2]
    exact ⟨isGiven_of_holds holds_definitionFile hread rfl,
      isGiven_of_holds holds_placeholderSource hread rfl⟩

/-- Nothing but objects and arrays is read as settings. -/
theorem ofEntry_eq_ok_cases {entry : Json} {s : Settings} (h : ofEntry entry = .ok s) :
    (∃ fields, entry = .object fields) ∨ ∃ items, entry = .array items := by
  cases entry with
  | object fields => exact .inl ⟨fields, rfl⟩
  | array items => exact .inr ⟨items, rfl⟩
  | _ => cases h

end Settings

end HostOverlay
