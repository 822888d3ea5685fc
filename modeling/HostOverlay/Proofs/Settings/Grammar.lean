import HostOverlay.Proofs.Json.Range
import HostOverlay.Proofs.Overlay.Attach
import Mathlib.Data.String.Basic

/-!
# Which entries are settings

An entry is read as settings exactly when it is an object that has no more than texts under the two
keys, or an array of no more than two texts.

* `isOrdered_of_parse?`: the names of an object that was read stand in order, each of them once.
* `exists_readFields_eq_ok`: no field of such an object is refused on account of another one.
* `readFields_filter`, `readFields_congr`: names that no field has do not matter, neither for what
  is read nor for how reading fails.
* `ofEntry_spec`: the entries that are accepted, what they give, and what becomes of the others.
-/

set_option autoImplicit false

namespace HostOverlay

namespace Json

/-! ## Objects in order -/

/-- The names of an object stand in order, so that none of them stands there twice. -/
def IsOrdered : Json → Prop
  | .object fields => fields.Pairwise fun f g ↦ f.1 < g.1
  | _ => True

theorem pairwise_insertField {key : String} {v : Json} {fields : List (String × Json)}
    (h : fields.Pairwise fun f g ↦ f.1 < g.1) :
    (insertField key v fields).Pairwise fun f g ↦ f.1 < g.1 := by
  induction fields with
  | nil => exact List.pairwise_singleton _ _
  | cons f rest ih =>
    obtain ⟨hf, hrest⟩ := List.pairwise_cons.1 h
    rw [insertField]
    split
    · rename_i hkey
      exact List.pairwise_cons.2 ⟨fun g hg ↦ hkey ▸ hf g hg, hrest⟩
    rename_i hne
    split
    · rename_i hlt
      refine List.pairwise_cons.2 ⟨fun g hg ↦ ?_, h⟩
      rcases List.mem_cons.1 hg with rfl | hg
      · exact hlt
      · exact hlt.trans (hf g hg)
    · rename_i hle
      refine List.pairwise_cons.2 ⟨fun g hg ↦ ?_, ih hrest⟩
      rcases mem_insertField hg with rfl | hg
      · exact lt_of_le_of_ne (not_lt.1 hle) hne
      · exact hf g hg

/-- **What was read is in order.** -/
theorem isOrdered_of_parse? {s : String} {v : Json} (h : parse? s = some v) : v.IsOrdered := by
  have hvalue : ∀ {depth cs rest}, value? depth cs = some (v, rest) → v.IsOrdered := by
    intro depth cs rest h
    cases v with
    | object fields =>
      cases depth with
      | zero =>
        rw [value?] at h
        cases h
      | succ depth =>
        rw [value?] at h
        split at h
        case h_3 =>
          split at h
          · obtain ⟨hfields, -⟩ := Prod.mk.inj (Option.some.inj h)
            obtain rfl := Json.object.inj hfields
            exact List.Pairwise.nil
          · obtain ⟨p, -, hp⟩ := Option.map_eq_some_iff.1 h
            obtain ⟨hfields, -⟩ := Prod.mk.inj hp
            obtain rfl := Json.object.inj hfields
            refine List.foldlRecOn p.1 _ List.Pairwise.nil fun acc hacc f _ ↦ ?_
            exact pairwise_insertField hacc
        case h_2 =>
          split at h
          · cases h
          · obtain ⟨p, -, hp⟩ := Option.map_eq_some_iff.1 h
            cases hp
        -- a text, a word or a number, which is no object
        all_goals
          obtain ⟨p, -, hp⟩ := Option.map_eq_some_iff.1 h
          cases hp
    | _ => trivial
  rw [parse?] at h
  split at h
  · rename_i hread
    split_ifs at h
    obtain rfl := Option.some.inj h
    exact hvalue hread
  · cases h

theorem lookup_eq_some_of_mem {fields : List (String × Json)}
    (h : fields.Pairwise fun f g ↦ f.1 < g.1) {f : String × Json} (hf : f ∈ fields) :
    lookup f.1 fields = some f.2 := by
  induction fields with
  | nil => cases hf
  | cons g rest ih =>
    obtain ⟨hg, hrest⟩ := List.pairwise_cons.1 h
    rw [lookup]
    rcases List.mem_cons.1 hf with rfl | hf
    · rw [if_pos rfl]
    · rw [if_neg (hg f hf).ne, ih hrest hf]

theorem mem_of_lookup_eq_some {key : String} {v : Json} {fields : List (String × Json)}
    (h : lookup key fields = some v) : (key, v) ∈ fields := by
  induction fields with
  | nil => cases h
  | cons f rest ih =>
    rw [lookup] at h
    split at h
    · rename_i hkey
      obtain rfl := Option.some.inj h
      exact hkey ▸ List.mem_cons_self
    · exact List.mem_cons_of_mem _ (ih h)

/-- Two objects in order that have the same under some names have the same fields of these
names. -/
theorem filter_eq_of_lookup_eq {fields fields' : List (String × Json)}
    (h : fields.Pairwise fun f g ↦ f.1 < g.1) (h' : fields'.Pairwise fun f g ↦ f.1 < g.1)
    {p : String → Bool} (hp : ∀ key, p key = true → lookup key fields' = lookup key fields) :
    (fields'.filter fun f ↦ p f.1) = fields.filter fun f ↦ p f.1 := by
  have hsub : ∀ {fs gs : List (String × Json)}, fs.Pairwise (fun f g ↦ f.1 < g.1) →
      (∀ key, p key = true → lookup key gs = lookup key fs) →
      ∀ f ∈ fs.filter fun f ↦ p f.1, f ∈ gs.filter fun f ↦ p f.1 := by
    intro fs gs hfs hsame f hf
    obtain ⟨hf, hpf⟩ := List.mem_filter.1 hf
    refine List.mem_filter.2 ⟨mem_of_lookup_eq_some ?_, hpf⟩
    rw [hsame _ hpf, lookup_eq_some_of_mem hfs hf]
  have hnodup : ∀ {fs : List (String × Json)}, fs.Pairwise (fun f g ↦ f.1 < g.1) →
      (fs.filter fun f ↦ p f.1).Nodup := fun hfs ↦
    (hfs.filter _).imp fun hlt heq ↦ hlt.ne (congrArg Prod.fst heq)
  have hperm : (fields'.filter fun f ↦ p f.1).Perm (fields.filter fun f ↦ p f.1) :=
    (List.perm_ext_iff_of_nodup (hnodup h') (hnodup h)).2 fun f ↦
      ⟨hsub h' (fun key hkey ↦ (hp key hkey).symm) f, hsub h hp f⟩
  refine hperm.eq_of_pairwise (fun f g _ _ hfg hgf ↦ ?_) (h'.filter _) (h.filter _)
  exact absurd (hfg.trans hgf) (lt_irrefl _)

end Json

namespace Decoder

variable {σ : Type}

/-! ## Reading fields in order -/

/-- The field reads the value whatever has been read, and touches no other field. -/
structure Field.Takes (f : Field σ) (fields : List (Field σ)) (v : Json) : Prop where
  exists_read : ∀ s, ∃ s', f.read v s = .ok s'
  isRead_eq : ∀ s s', f.read v s = .ok s' →
    ∀ g ∈ fields, g.name ≠ f.name → g.isRead s' = g.isRead s

/-- **An object in order is read** if each of its fields can be. -/
theorem exists_readFields_eq_ok {fields : List (Field σ)} {entries : List (String × Json)}
    (hentries : entries.Pairwise fun e e' ↦ e.1 < e'.1)
    (htakes : ∀ e ∈ entries, ∀ f ∈ fields, f.name = e.1 → f.Takes fields e.2) :
    ∀ s, (∀ f ∈ fields, f.isRead s = true → ∀ e ∈ entries, e.1 ≠ f.name) →
      ∃ s', readFields fields entries s = .ok s' := by
  induction entries with
  | nil => exact fun s _ ↦ ⟨s, rfl⟩
  | cons e rest ih =>
    intro s hs
    obtain ⟨k, v⟩ := e
    obtain ⟨hk, hrest⟩ := List.pairwise_cons.1 hentries
    rw [List.forall_mem_cons] at htakes
    have ih := ih hrest htakes.2
    rw [readFields]
    cases hfind : fields.find? fun f ↦ f.name = k with
    | none => exact ih s fun f hf hread e he ↦ hs f hf hread e (List.mem_cons_of_mem _ he)
    | some f =>
      have hf := List.mem_of_find?_eq_some hfind
      have hname : f.name = k := by simpa using List.find?_some hfind
      have hunread : f.isRead s = false := by
        rw [Bool.eq_false_iff]
        exact fun hread ↦ hs f hf hread _ List.mem_cons_self hname.symm
      have htake := htakes.1 f hf hname
      obtain ⟨s', hread⟩ := htake.exists_read s
      obtain ⟨s'', hrun⟩ := ih s' fun g hg hgread e he ↦ by
        by_cases hgf : g.name = f.name
        · -- what is behind this field has a greater name
          rw [hgf, hname]
          exact (hk e he).ne'
        · rw [htake.isRead_eq s s' hread g hg hgf] at hgread
          exact hs g hg hgread e (List.mem_cons_of_mem _ he)
      refine ⟨s'', ?_⟩
      simp only [hunread, Bool.false_eq_true, if_false, hread, bind, Except.bind, hrun]

/-- Is it the name of a field? -/
def hasName (fields : List (Field σ)) (key : String) : Bool := fields.any fun f ↦ f.name = key

/-- Names that no field has are skipped. -/
theorem readFields_filter (fields : List (Field σ)) (entries : List (String × Json)) :
    ∀ s, readFields fields (entries.filter fun e ↦ hasName fields e.1) s =
      readFields fields entries s := by
  induction entries with
  | nil => exact fun s ↦ rfl
  | cons e rest ih =>
    intro s
    obtain ⟨k, v⟩ := e
    cases hfind : fields.find? fun f ↦ f.name = k with
    | none =>
      have hname : hasName fields k = false := by
        rw [hasName, List.any_eq_false]
        exact List.find?_eq_none.1 hfind
      rw [List.filter_cons_of_neg (by simp [hname]), readFields, hfind]
      exact ih s
    | some f =>
      have hname : hasName fields k = true := by
        rw [hasName, List.any_eq_true]
        exact ⟨f, List.mem_of_find?_eq_some hfind, by simpa using List.find?_some hfind⟩
      rw [List.filter_cons_of_pos (by simpa using hname), readFields, readFields, hfind]
      simp only [ih]

/-- **What is read depends on the values of the fields alone**, and so does the failure to read. -/
theorem readFields_congr {fields : List (Field σ)} {entries entries' : List (String × Json)}
    (h : entries.Pairwise fun e e' ↦ e.1 < e'.1) (h' : entries'.Pairwise fun e e' ↦ e.1 < e'.1)
    (hlookup : ∀ f ∈ fields, Json.lookup f.name entries' = Json.lookup f.name entries) (s : σ) :
    readFields fields entries' s = readFields fields entries s := by
  rw [← readFields_filter fields entries, ← readFields_filter fields entries',
    Json.filter_eq_of_lookup_eq h h' fun key hkey ↦ ?_]
  obtain ⟨f, hf, hname⟩ := List.any_eq_true.1 hkey
  obtain rfl : f.name = key := by simpa using hname
  exact hlookup f hf

end Decoder

namespace Settings

/-! ## The grammar -/

/-- There is nothing but a text under the key. -/
def TextWhenPresent (fields : List (String × Json)) (key : String) : Prop :=
  ∀ v, Json.lookup key fields = some v → ∃ t, v = .string t

/-- An entry that settings can be read from. -/
def IsEntry : Json → Prop
  | .object fields =>
    TextWhenPresent fields definitionKey ∧ TextWhenPresent fields placeholderKey
  | .array items => items.length ≤ 2 ∧ ∀ v ∈ items, ∃ t, v = .string t
  | _ => False

/-- The setting is the text at a position of the array, or the default if the array is too
short. -/
def IsGivenAt (items : List Json) (n : Nat) (default setting : String) : Prop :=
  items[n]? = some (.string setting) ∨ items[n]? = none ∧ setting = default

/-- The settings are what the entry says, with defaults for what it does not say. -/
def IsGivenBy : Json → Settings → Prop
  | .object fields, s =>
    IsGiven fields definitionKey "a.tzen" s.definitionFile ∧
      IsGiven fields placeholderKey "export type A = 1;" s.placeholderSource
  | .array items, s =>
    IsGivenAt items 0 "a.tzen" s.definitionFile ∧
      IsGivenAt items 1 "export type A = 1;" s.placeholderSource
  | _, _ => False

/-! ## Objects -/

theorem takes_textField {key : String} {get : Draft → Option String}
    {put : String → Draft → Draft} {fields : List (Decoder.Field Draft)}
    (h : ∀ t d, ∀ g ∈ fields, g.name ≠ key → g.isRead (put t d) = g.isRead d) (t : String) :
    (textField key get put).Takes fields (.string t) where
  exists_read d := ⟨put t d, rfl⟩
  isRead_eq d d' hread g hg hname := by
    obtain ⟨t', -, rfl⟩ := of_read_textField hread
    exact h t' d g hg hname

/-- Each of the two fields takes every text. -/
theorem takes_of_mem_fields {f : Decoder.Field Draft} (hf : f ∈ fields) (t : String) :
    f.Takes fields (.string t) := by
  have hother : ∀ g ∈ fields, (g.name ≠ definitionKey →
      ∀ t d, g.isRead { d with definitionFile := some t } = g.isRead d) ∧
      (g.name ≠ placeholderKey →
        ∀ t d, g.isRead { d with placeholderSource := some t } = g.isRead d) := by
    rw [fields_eq, List.forall_mem_cons, List.forall_mem_singleton]
    exact ⟨⟨fun hname ↦ absurd rfl hname, fun _ _ _ ↦ rfl⟩,
      ⟨fun _ _ _ ↦ rfl, fun hname ↦ absurd rfl hname⟩⟩
  have hf' := hf
  rw [fields_eq, List.mem_cons, List.mem_singleton] at hf'
  rcases hf' with rfl | rfl
  · exact takes_textField (fun t d g hg hname ↦ (hother g hg).1 hname t d) t
  · exact takes_textField (fun t d g hg hname ↦ (hother g hg).2 hname t d) t

theorem names_fields : fields.map Decoder.Field.name = [definitionKey, placeholderKey] := rfl

section

variable {fs fs' : List (String × Json)}

theorem textWhenPresent_of_isGiven {key default setting : String}
    (h : IsGiven fs key default setting) : TextWhenPresent fs key := by
  intro v hv
  rcases h with hlookup | ⟨hlookup, -⟩
  · exact ⟨setting, Option.some.inj (hv.symm.trans hlookup)⟩
  · rw [hlookup] at hv
    cases hv

theorem ofEntry_object_eq (fs : List (String × Json)) :
    ofEntry (.object fs) =
      (Decoder.readFields fields (Json.eraseField "name" fs) {}).map ofDraft := by
  rw [ofEntry, decoder, Decoder.record]
  cases Decoder.readFields fields (Json.eraseField "name" fs) {} with
  | error e => rfl
  | ok d => rfl

theorem pairwise_eraseField (h : (Json.object fs).IsOrdered) :
    (Json.eraseField "name" fs).Pairwise fun f g ↦ f.1 < g.1 :=
  List.Pairwise.filter _ h

/-- **An object with nothing but texts under the keys is accepted.** -/
theorem exists_ofEntry_object (h : (Json.object fs).IsOrdered) (hentry : IsEntry (.object fs)) :
    ∃ s, ofEntry (.object fs) = .ok s := by
  have hordered := pairwise_eraseField h
  have htakes : ∀ e ∈ Json.eraseField "name" fs, ∀ f ∈ fields, f.name = e.1 →
      f.Takes fields e.2 := by
    intro e he f hf hname
    have hlookup := Json.lookup_eq_some_of_mem h (List.mem_of_mem_filter he)
    have hkey : e.1 ∈ [definitionKey, placeholderKey] := by
      rw [← hname, ← names_fields]
      exact List.mem_map_of_mem hf
    obtain ⟨t, ht⟩ : ∃ t, e.2 = .string t := by
      simp only [List.mem_cons, List.not_mem_nil, or_false] at hkey
      rcases hkey with hkey | hkey
      · exact hentry.1 _ (hkey ▸ hlookup)
      · exact hentry.2 _ (hkey ▸ hlookup)
    rw [ht]
    exact takes_of_mem_fields hf t
  obtain ⟨d, hd⟩ := Decoder.exists_readFields_eq_ok hordered htakes {} fun f hf hread ↦ by
    rw [fields_eq, List.mem_cons, List.mem_singleton] at hf
    rcases hf with rfl | rfl <;> cases hread
  exact ⟨ofDraft d, by rw [ofEntry_object_eq, hd]; rfl⟩

/-- **Nothing but the two keys matters**, not even for the failure. -/
theorem ofEntry_object_congr (h : (Json.object fs).IsOrdered) (h' : (Json.object fs').IsOrdered)
    (hlookup : ∀ key ∈ [definitionKey, placeholderKey], Json.lookup key fs' = Json.lookup key fs) :
    ofEntry (.object fs') = ofEntry (.object fs) := by
  have hne : ∀ key ∈ [definitionKey, placeholderKey], key ≠ "name" := by decide
  rw [ofEntry_object_eq, ofEntry_object_eq,
    Decoder.readFields_congr (pairwise_eraseField h) (pairwise_eraseField h') fun f hf ↦ ?_]
  have hkey : f.name ∈ [definitionKey, placeholderKey] := by
    rw [← names_fields]
    exact List.mem_map_of_mem hf
  rw [Json.lookup_eraseField_of_ne (hne _ hkey), Json.lookup_eraseField_of_ne (hne _ hkey),
    hlookup _ hkey]

end

/-! ## Arrays -/

/-- An array is accepted if it has the right form, and gives its elements in order. -/
theorem ofEntry_array {items : List Json} (h : IsEntry (.array items)) :
    ∃ s, ofEntry (.array items) = .ok s ∧ IsGivenBy (.array items) s := by
  obtain ⟨hlength, htext⟩ := h
  rcases items with _ | ⟨v, _ | ⟨w, _ | ⟨x, rest⟩⟩⟩
  · exact ⟨_, rfl, .inr ⟨rfl, rfl⟩, .inr ⟨rfl, rfl⟩⟩
  · rw [List.forall_mem_singleton] at htext
    obtain ⟨t, rfl⟩ := htext
    exact ⟨_, rfl, .inl rfl, .inr ⟨rfl, rfl⟩⟩
  · rw [List.forall_mem_cons, List.forall_mem_singleton] at htext
    obtain ⟨⟨t, rfl⟩, ⟨u, rfl⟩⟩ := htext
    exact ⟨_, rfl, .inl rfl, .inl rfl⟩
  · simp at hlength

/-- An array of another form is refused. -/
theorem isEntry_of_ofEntry_array {items : List Json} {s : Settings}
    (h : ofEntry (.array items) = .ok s) : IsEntry (.array items) := by
  rcases items with _ | ⟨v, _ | ⟨w, rest⟩⟩
  · exact ⟨by simp, by simp⟩
  · cases v with
    | string t => exact ⟨by simp, by simp⟩
    | _ => cases h
  · cases v with
    | string t =>
      cases w with
      | string u =>
        cases rest with
        | nil => exact ⟨by simp, by simp⟩
        | cons x rest => cases h
      | _ => cases h
    | _ => cases h

/-! ## All entries -/

/-- **The grammar of entries.** -/
theorem exists_ofEntry_eq_ok_iff {e : Json} (he : e.IsOrdered) :
    (∃ s, ofEntry e = .ok s) ↔ IsEntry e := by
  cases e with
  | object fs =>
    refine ⟨fun ⟨s, hs⟩ ↦ ?_, exists_ofEntry_object he⟩
    obtain ⟨hdefinition, hplaceholder⟩ := ofEntry_object hs
    exact ⟨textWhenPresent_of_isGiven hdefinition, textWhenPresent_of_isGiven hplaceholder⟩
  | array items =>
    refine ⟨fun ⟨s, hs⟩ ↦ isEntry_of_ofEntry_array hs, fun h ↦ ?_⟩
    obtain ⟨s, hs, -⟩ := ofEntry_array h
    exact ⟨s, hs⟩
  | _ => exact ⟨fun ⟨s, hs⟩ ↦ (nomatch hs), False.elim⟩

/-- What an entry gives is what it says. -/
theorem isGivenBy_of_ofEntry {e : Json} {s : Settings} (h : ofEntry e = .ok s) :
    IsGivenBy e s := by
  cases e with
  | object fs => exact ofEntry_object h
  | array items =>
    obtain ⟨s', hs', hgiven⟩ := ofEntry_array (isEntry_of_ofEntry_array h)
    obtain rfl := Except.ok.inj (h.symm.trans hs')
    exact hgiven
  | _ => cases h

/-- **Which entries are settings.**  An entry is accepted exactly when it is an object with nothing
but texts under the two keys, or an array of at most two texts; the settings are then those texts,
and defaults for what is missing.  Two objects that have the same under the two keys are read alike,
or refused alike, whatever else they have.  Every other entry is refused, and nothing is attached
to a project with such an entry, on account of its configuration. -/
theorem ofEntry_spec {e : Json} (he : e.IsOrdered) :
    ((∃ s, ofEntry e = .ok s) ↔ IsEntry e) ∧
    (∀ s, ofEntry e = .ok s → IsGivenBy e s) ∧
    (∀ fs fs', e = .object fs → (Json.object fs').IsOrdered →
      (∀ key ∈ ["definitionFile", "placeholderSource"],
        Json.lookup key fs' = Json.lookup key fs) → ofEntry (.object fs') = ofEntry e) ∧
    (¬ IsEntry e → ∃ cause, ofEntry e = .error cause ∧
      ∀ (σ : Type) [Traced σ] [OnDisk σ] (p : Plugin σ) (project : Project σ) (inner : Host σ)
        (w : σ), e ≠ .null → ((p.attach project inner e).run w).1 = .error (.config cause)) := by
  refine ⟨exists_ofEntry_eq_ok_iff he, fun s ↦ isGivenBy_of_ofEntry, ?_, fun hno ↦ ?_⟩
  · rintro fs fs' rfl h' hlookup
    exact ofEntry_object_congr he h' hlookup
  · cases hread : ofEntry e with
    | ok s => exact absurd ((exists_ofEntry_eq_ok_iff he).1 ⟨s, hread⟩) hno
    | error cause =>
      refine ⟨cause, rfl, fun σ _ _ p project inner w hnull ↦ ?_⟩
      obtain ⟨root, hroot⟩ :=
        Context.exists_rootOf (OnDisk.disk w).workingDirectory project.name
      rw [Plugin.run_attach_of_error hroot (Plugin.capabilitiesFor_of_error hnull hread)]

/-- One setting, and something under a name that is none. -/
def oneSetting : List (String × Json) :=
  [("definitionFile", .string "x.tzen"), ("extra", .array [.null])]

/-- The same setting, with a name in front of it and nothing else. -/
def namedSetting : List (String × Json) :=
  [("definitionFile", .string "x.tzen"), ("name", .bool true)]

/-- A setting that is there, but is no text. -/
def nullSetting : List (String × Json) := [("name", .string "a"), ("placeholderSource", .null)]

/-- One setting is read whatever else there is, and a setting that is `null` is refused. -/
theorem ofEntry_spec_of_settings :
    (Json.object oneSetting).IsOrdered ∧ (Json.object namedSetting).IsOrdered ∧
      (Json.object nullSetting).IsOrdered ∧
      ofEntry (.object oneSetting) = .ok ⟨"x.tzen", "export type A = 1;"⟩ ∧
      ofEntry (.object namedSetting) = ofEntry (.object oneSetting) ∧
      ∃ cause, ofEntry (.object nullSetting) = .error cause ∧
        (((Plugin.build Workbench.wordService []).attach Plugin.bareProject Plugin.bareHost
          (.object nullSetting)).run Overlay.bareConsole).1 = .error (.config cause) := by
  have hone : (Json.object oneSetting).IsOrdered := by
    show oneSetting.Pairwise fun f g ↦ f.1 < g.1
    decide
  have hnamed : (Json.object namedSetting).IsOrdered := by
    show namedSetting.Pairwise fun f g ↦ f.1 < g.1
    decide
  have hnull : (Json.object nullSetting).IsOrdered := by
    show nullSetting.Pairwise fun f g ↦ f.1 < g.1
    decide
  refine ⟨hone, hnamed, hnull, ?_, ?_, ?_⟩
  · obtain ⟨⟨definitionFile, placeholderSource⟩, hs⟩ := (ofEntry_spec hone).1.2
      ⟨fun v hv ↦ ⟨_, (Option.some.inj hv).symm⟩, fun v hv ↦ nomatch hv⟩
    obtain ⟨hdefinition, hplaceholder⟩ := (ofEntry_spec hone).2.1 _ hs
    rcases hdefinition with h | ⟨h, -⟩
    · obtain rfl := Json.string.inj (Option.some.inj h)
      rcases hplaceholder with h' | ⟨-, rfl⟩
      · cases h'
      · exact hs
    · cases h
  · exact (ofEntry_spec hone).2.2.1 _ _ rfl hnamed
      (List.forall_mem_cons.2 ⟨rfl, List.forall_mem_singleton.2 rfl⟩)
  · obtain ⟨cause, hcause, hattach⟩ := (ofEntry_spec hnull).2.2.2 fun h ↦ by
      obtain ⟨t, ht⟩ := h.2 .null rfl
      cases ht
    exact ⟨cause, hcause, hattach _ _ _ _ _ (by simp)⟩

end Settings

end HostOverlay
