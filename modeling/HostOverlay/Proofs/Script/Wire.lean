import HostOverlay.Script.Wire
import HostOverlay.Proofs.Json.RoundTrip

/-!
# What hosts exchange is taken back as it was written

Each of the ten types that have a written form is faithful to it.  `IsFaithful` says what that is:
a value is taken back from the JSON value it is written as, from both of its texts, and from the
other form that its type may be given in; and whatever a value was read from, writing it gives one
form that stands for it from then on.

The proofs of a record have two parts.  Reading what was written runs the fields one by one.  The
other way round, only the positions in a value matter: a position that was read from a text has 64
bits, so that it can be written into one again (`roundTrips_textSpan` and what is built on it).
-/

set_option autoImplicit false

namespace HostOverlay

/-! ## The statement -/

namespace Json

/-- The texts of a value: on one line, and over several. -/
def texts (v : Json) : List String := [v.compact, v.pretty]

/-- The other form of what may be given in two: a record as the array of its fields, and a choice as
an object with the name as its only key. -/
def respelled : Json → Json
  | .object fields => .array (fields.map Prod.snd)
  | .string name => .object [(name, .null)]
  | v => v

end Json

/-- The written form of a type, and its decoder, which takes it back. -/
structure IsFaithful {α : Type} (encode : α → Json) (decode : Decoder α) (InRange : α → Prop) :
    Prop where
  /-- A value is taken back, in whatever order an object holds its names. -/
  value : ∀ a, decode (encode a) = .ok a ∧ decode (encode a).arranged = .ok a
  /-- It is taken back from its texts. -/
  text : ∀ a, InRange a → ∀ s ∈ (encode a).texts, decode.ofText s = some (.ok a)
  /-- It is taken back from its other form. -/
  respelled : ∀ a, decode (encode a).respelled = .ok a
  /-- Whatever a value was read from, its written form is read as it again, and is written the same
  then. -/
  canonical : ∀ v a, decode v = .ok a →
    decode (encode a) = .ok a ∧ encode <$> decode (encode a) = .ok (encode a)
  /-- The same for texts: whatever text a value was read from, it is in range and has texts of its
  own. -/
  canonicalText : ∀ s a, decode.ofText s = some (.ok a) →
    InRange a ∧ ∀ t ∈ (encode a).texts, decode.ofText t = some (.ok a)

theorem RoundTrips.isFaithful {α : Type} {encode : α → Json} {decode : Decoder α}
    {InRange : α → Prop} (h : RoundTrips encode decode InRange)
    (hrespelled : ∀ a, decode (encode a).respelled = .ok a) :
    IsFaithful encode decode InRange := by
  have htext : ∀ a, InRange a → ∀ s ∈ (encode a).texts, decode.ofText s = some (.ok a) := by
    intro a ha s hs
    rcases List.mem_cons.1 hs with rfl | hs
    · exact h.ofText_compact ha
    · obtain rfl := List.mem_singleton.1 hs
      simpa using h.ofText_pretty ha (b := "") Json.isBlanks_nil
  refine ⟨fun a ↦ ⟨h.decode_encode a, h.decode_arranged a⟩, htext, hrespelled, ?_, ?_⟩
  · intro v a _
    rw [h.decode_encode]
    exact ⟨rfl, rfl⟩
  · intro s a hs
    have ha := h.inRange_of_ofText hs
    exact ⟨ha, htext a ha⟩

/-! ## Choices -/

theorem respelled_choice {α : Type} {all : List α} {name : α → String}
    (h : ∀ a, (all.find? fun b ↦ name b = name a) = some a) (a : α) :
    Decoder.choice all name (Json.string (name a)).respelled = .ok a := by
  simp [Json.respelled, Decoder.choice, Decoder.named, h, bind, Except.bind]

theorem ScriptKind.find?_name (k : ScriptKind) : (all.find? fun b ↦ b.name = k.name) = some k := by
  cases k <;> rfl

theorem Extension.find?_spelling (e : Extension) :
    (all.find? fun b ↦ b.spelling = e.spelling) = some e := by
  cases e <;> rfl

theorem ElementKind.find?_name (k : ElementKind) :
    (all.find? fun b ↦ b.name = k.name) = some k := by
  cases k <;> rfl

theorem ScriptKind.roundTrips : RoundTrips ScriptKind.toJson ScriptKind.decoder (fun _ ↦ True) :=
  .choice find?_name

theorem Extension.roundTrips : RoundTrips Extension.toJson Extension.decoder (fun _ ↦ True) :=
  .choice find?_spelling

theorem ElementKind.roundTrips : RoundTrips ElementKind.toJson ElementKind.decoder (fun _ ↦ True) :=
  .choice find?_name

/-! ## Specifiers, modules and resolutions -/

theorem Specifier.roundTrips : RoundTrips Specifier.toJson Specifier.decoder (fun _ ↦ True) where
  decode_encode _ := rfl
  decode_arranged _ := rfl
  isWhole _ := ⟨trivial, trivial⟩
  inRange _ _ := trivial

namespace ResolvedModule

/-- A module is read from an object in the order of declaration or of names, and from an array. -/
theorem decoder_eq_ok {m : ResolvedModule} {extension : Json}
    (h : Extension.decoder extension = .ok m.extension) :
    decoder (.object [("resolved_file_name", .string m.fileName), ("extension", extension),
        ("is_external_library_import", .bool m.isExternalLibraryImport)]) = .ok m ∧
      decoder (.object [("extension", extension),
        ("is_external_library_import", .bool m.isExternalLibraryImport),
        ("resolved_file_name", .string m.fileName)]) = .ok m ∧
      decoder (.array [.string m.fileName, extension, .bool m.isExternalLibraryImport]) =
        .ok m := by
  refine ⟨?_, ?_, ?_⟩ <;>
    simp [decoder, Decoder.readFields, Decoder.readElements, fields, h, Decoder.text,
      Decoder.boolean, ofDraft, Decoder.require]

theorem roundTrips : RoundTrips toJson decoder (fun _ ↦ True) where
  decode_encode m := (decoder_eq_ok (Extension.roundTrips.decode_encode m.extension)).1
  decode_arranged m := (decoder_eq_ok (Extension.roundTrips.decode_arranged m.extension)).2.1
  isWhole _ := ⟨trivial, trivial, trivial, trivial⟩
  inRange _ _ := trivial

end ResolvedModule

namespace Resolution

/-- The same for a resolution. -/
theorem decoder_eq_ok {r : Resolution} {module : Json} {failed : Json}
    (hmodule : Decoder.optional ResolvedModule.decoder module = .ok r.module)
    (hfailed : Decoder.list Decoder.text failed = .ok r.failedLookups) :
    decoder (.object [("resolved_module", module), ("failed_lookup_locations", failed)]) = .ok r ∧
      decoder (.object [("failed_lookup_locations", failed), ("resolved_module", module)]) = .ok r ∧
      decoder (.array [module, failed]) = .ok r := by
  refine ⟨?_, ?_, ?_⟩ <;>
    simp [decoder, Decoder.readFields, Decoder.readElements, fields, hmodule, hfailed, ofDraft]

/-- A resolution without failed lookups may do without the field for them. -/
theorem decoder_eq_ok_of_isEmpty {r : Resolution} {module : Json} (hempty : r.failedLookups = [])
    (hmodule : Decoder.optional ResolvedModule.decoder module = .ok r.module) :
    decoder (.object [("resolved_module", module)]) = .ok r ∧
      decoder (.array [module]) = .ok r := by
  obtain ⟨m, failed⟩ := r
  subst hempty
  refine ⟨?_, ?_⟩ <;>
    simp [decoder, Decoder.readFields, Decoder.readElements, fields, hmodule, ofDraft]

theorem toJson_of_isEmpty {r : Resolution} (h : r.failedLookups = []) :
    r.toJson = .object [("resolved_module", .ofOption ResolvedModule.toJson r.module)] := by
  rw [toJson, h]
  rfl

theorem toJson_of_ne {r : Resolution} (h : r.failedLookups ≠ []) :
    r.toJson = .object [("resolved_module", .ofOption ResolvedModule.toJson r.module),
      ("failed_lookup_locations", .array (r.failedLookups.map .string))] := by
  rw [toJson, if_neg (by simpa using h)]
  rfl

theorem roundTrips_module : RoundTrips (Json.ofOption ResolvedModule.toJson)
    (Decoder.optional ResolvedModule.decoder) (fun o ↦ ∀ a ∈ o, True) :=
  ResolvedModule.roundTrips.optional fun _ h ↦ nomatch h

theorem roundTrips : RoundTrips toJson decoder (fun _ ↦ True) where
  decode_encode r := by
    by_cases h : r.failedLookups = []
    · rw [toJson_of_isEmpty h]
      exact (decoder_eq_ok_of_isEmpty h (roundTrips_module.decode_encode _)).1
    · rw [toJson_of_ne h]
      exact (decoder_eq_ok (roundTrips_module.decode_encode _)
        (RoundTrips.text.list.decode_encode _)).1
  decode_arranged r := by
    by_cases h : r.failedLookups = []
    · rw [toJson_of_isEmpty h]
      exact (decoder_eq_ok_of_isEmpty h (roundTrips_module.decode_arranged _)).1
    · rw [toJson_of_ne h]
      exact (decoder_eq_ok (roundTrips_module.decode_arranged _)
        (RoundTrips.text.list.decode_arranged _)).2.1
  isWhole {r} _ := by
    have hmodule := roundTrips_module.isWhole (a := r.module) fun _ _ ↦ trivial
    by_cases h : r.failedLookups = []
    · rw [toJson_of_isEmpty h]
      exact ⟨hmodule, trivial⟩
    · rw [toJson_of_ne h]
      exact ⟨hmodule, RoundTrips.text.list.isWhole fun _ _ ↦ trivial, trivial⟩
  inRange _ _ := trivial

theorem respelled_toJson (r : Resolution) : decoder r.toJson.respelled = .ok r := by
  by_cases h : r.failedLookups = []
  · rw [toJson_of_isEmpty h]
    exact (decoder_eq_ok_of_isEmpty h (roundTrips_module.decode_encode _)).2
  · rw [toJson_of_ne h]
    exact (decoder_eq_ok (roundTrips_module.decode_encode _)
      (RoundTrips.text.list.decode_encode _)).2.2

end Resolution

/-! ## Spans

The only numbers in what is exchanged are the positions of spans. -/

theorem Decoder.require_eq_ok {α : Type} {name : String} {o : Option α} {a : α}
    (h : Decoder.require name o = .ok a) : o = some a := by
  cases o with
  | none => cases h
  | some b => rw [Except.ok.inj h]

theorem Decoder.position_eq_ok {v : Json} {n : Nat} (h : Decoder.position v = .ok n) :
    v = .ofNat n := by
  unfold Decoder.position at h
  split at h
  · rw [Except.ok.inj h]
    rfl
  · cases h
  · cases h

/-- A position that was read has room. -/
theorem Decoder.position_lt {v : Json} {n : Nat} (hv : v.EachNumber Json.Number.FitsWord)
    (h : Decoder.position v = .ok n) : n < Json.Number.wordLimit := by
  obtain rfl := Decoder.position_eq_ok h
  exact Int.ofNat_lt.1 hv.2

namespace TextSpan

/-- Both positions have 64 bits. -/
def InRange (s : TextSpan) : Prop :=
  s.start < Json.Number.wordLimit ∧ s.length < Json.Number.wordLimit

theorem isWhole_ofNat {n : Nat} (h : n < Json.Number.wordLimit) : (Json.ofNat n).IsWhole :=
  ⟨by omega, Int.ofNat_lt.2 h⟩

theorem roundTrips : RoundTrips toJson decoder InRange where
  decode_encode _ := rfl
  decode_arranged _ := rfl
  isWhole h := ⟨isWhole_ofNat h.1, isWhole_ofNat h.2, trivial⟩
  inRange {v s} hv hs := by
    have hfields : ∀ f ∈ fields, f.Keeps fun d ↦ (∀ n ∈ d.start, n < Json.Number.wordLimit) ∧
        ∀ n ∈ d.length, n < Json.Number.wordLimit := by
      simp only [fields, List.forall_mem_cons]
      refine ⟨.of_item fun hv hn hd ↦ ⟨?_, hd.2⟩, .of_item fun hv hn hd ↦ ⟨hd.1, ?_⟩, by simp⟩
      · simpa using Decoder.position_lt hv hn
      · simpa using Decoder.position_lt hv hn
    obtain ⟨d, ⟨hstart, hlength⟩, hd⟩ :=
      Decoder.exists_of_record hfields ⟨by simp, by simp⟩ hv hs
    obtain ⟨start, hrequire, hd⟩ := Decoder.exists_of_bind hd
    obtain ⟨length, hrequire', hd⟩ := Decoder.exists_of_bind hd
    obtain rfl := Except.ok.inj hd
    exact ⟨hstart start (Decoder.require_eq_ok hrequire),
      hlength length (Decoder.require_eq_ok hrequire')⟩

end TextSpan

/-! ## Definitions and quick info -/

namespace Definition

/-- Its span has positions of 64 bits. -/
def InRange (d : Definition) : Prop := d.span.InRange

theorem decoder_eq_ok {d : Definition} {span kind containerKind : Json}
    (hspan : TextSpan.decoder span = .ok d.span) (hkind : ElementKind.decoder kind = .ok d.kind)
    (hcontainerKind : ElementKind.decoder containerKind = .ok d.containerKind) :
    decoder (.object [("file_name", .string d.fileName), ("text_span", span), ("kind", kind),
        ("name", .string d.name), ("container_kind", containerKind),
        ("container_name", .string d.containerName)]) = .ok d ∧
      decoder (.object [("container_kind", containerKind),
        ("container_name", .string d.containerName), ("file_name", .string d.fileName),
        ("kind", kind), ("name", .string d.name), ("text_span", span)]) = .ok d ∧
      decoder (.array [.string d.fileName, span, kind, .string d.name, containerKind,
        .string d.containerName]) = .ok d := by
  refine ⟨?_, ?_, ?_⟩ <;>
    simp [decoder, Decoder.readFields, Decoder.readElements, fields, hspan, hkind, hcontainerKind,
      Decoder.text, ofDraft, Decoder.require]

theorem inRange_of_decoder {v : Json} {d : Definition} (hv : v.EachNumber Json.Number.FitsWord)
    (h : decoder v = .ok d) : d.InRange := by
  have hfields : ∀ f ∈ fields, f.Keeps fun d ↦ ∀ s ∈ d.span, s.InRange := by
    simp only [fields, List.forall_mem_cons]
    refine ⟨.of_item fun _ _ hd ↦ hd, .of_item fun hv hs _ ↦ ?_, .of_item fun _ _ hd ↦ hd,
      .of_item fun _ _ hd ↦ hd, .of_item fun _ _ hd ↦ hd, .of_item fun _ _ hd ↦ hd, by simp⟩
    simpa using TextSpan.roundTrips.inRange hv hs
  obtain ⟨draft, hspan, hdraft⟩ := Decoder.exists_of_record hfields (by simp) hv h
  obtain ⟨_, -, hdraft⟩ := Decoder.exists_of_bind hdraft
  obtain ⟨span, hrequire, hdraft⟩ := Decoder.exists_of_bind hdraft
  obtain ⟨_, -, hdraft⟩ := Decoder.exists_of_bind hdraft
  obtain ⟨_, -, hdraft⟩ := Decoder.exists_of_bind hdraft
  obtain ⟨_, -, hdraft⟩ := Decoder.exists_of_bind hdraft
  obtain ⟨_, -, hdraft⟩ := Decoder.exists_of_bind hdraft
  obtain rfl := Except.ok.inj hdraft
  exact hspan span (Decoder.require_eq_ok hrequire)

theorem roundTrips : RoundTrips toJson decoder InRange where
  decode_encode d := (decoder_eq_ok (TextSpan.roundTrips.decode_encode d.span)
    (ElementKind.roundTrips.decode_encode d.kind)
    (ElementKind.roundTrips.decode_encode d.containerKind)).1
  decode_arranged d := (decoder_eq_ok (TextSpan.roundTrips.decode_arranged d.span)
    (ElementKind.roundTrips.decode_arranged d.kind)
    (ElementKind.roundTrips.decode_arranged d.containerKind)).2.1
  isWhole h :=
    ⟨trivial, TextSpan.roundTrips.isWhole h, trivial, trivial, trivial, trivial, trivial⟩
  inRange := inRange_of_decoder

end Definition

namespace DefinitionAnswer

/-- The spans in it have positions of 64 bits. -/
def InRange (a : DefinitionAnswer) : Prop := (∀ d ∈ a.definitions, d.InRange) ∧ a.span.InRange

theorem decoder_eq_ok {a : DefinitionAnswer} {definitions span : Json}
    (hdefinitions : Decoder.list Definition.decoder definitions = .ok a.definitions)
    (hspan : TextSpan.decoder span = .ok a.span) :
    decoder (.object [("definitions", definitions), ("text_span", span)]) = .ok a ∧
      decoder (.array [definitions, span]) = .ok a := by
  refine ⟨?_, ?_⟩ <;>
    simp [decoder, Decoder.readFields, Decoder.readElements, fields, hdefinitions, hspan, ofDraft,
      Decoder.require]

theorem inRange_of_decoder {v : Json} {a : DefinitionAnswer}
    (hv : v.EachNumber Json.Number.FitsWord) (h : decoder v = .ok a) : a.InRange := by
  have hfields : ∀ f ∈ fields, f.Keeps fun d ↦ (∀ ds ∈ d.definitions, ∀ d ∈ ds, d.InRange) ∧
      ∀ s ∈ d.span, s.InRange := by
    simp only [fields, List.forall_mem_cons]
    refine ⟨.of_item fun hv hds hd ↦ ⟨?_, hd.2⟩, .of_item fun hv hs hd ↦ ⟨hd.1, ?_⟩, by simp⟩
    · simpa using Definition.roundTrips.list.inRange hv hds
    · simpa using TextSpan.roundTrips.inRange hv hs
  obtain ⟨draft, ⟨hdefinitions, hspan⟩, hdraft⟩ :=
    Decoder.exists_of_record hfields ⟨by simp, by simp⟩ hv h
  obtain ⟨definitions, hrequire, hdraft⟩ := Decoder.exists_of_bind hdraft
  obtain ⟨span, hrequire', hdraft⟩ := Decoder.exists_of_bind hdraft
  obtain rfl := Except.ok.inj hdraft
  exact ⟨hdefinitions definitions (Decoder.require_eq_ok hrequire),
    hspan span (Decoder.require_eq_ok hrequire')⟩

theorem roundTrips : RoundTrips toJson decoder InRange where
  decode_encode a := (decoder_eq_ok (Definition.roundTrips.list.decode_encode a.definitions)
    (TextSpan.roundTrips.decode_encode a.span)).1
  decode_arranged a := (decoder_eq_ok (Definition.roundTrips.list.decode_arranged a.definitions)
    (TextSpan.roundTrips.decode_arranged a.span)).1
  isWhole h := ⟨Definition.roundTrips.list.isWhole h.1, TextSpan.roundTrips.isWhole h.2, trivial⟩
  inRange := inRange_of_decoder

end DefinitionAnswer

namespace QuickInfo

/-- Its span has positions of 64 bits. -/
def InRange (q : QuickInfo) : Prop := q.span.InRange

theorem decoder_eq_ok {q : QuickInfo} {kind span : Json}
    (hkind : ElementKind.decoder kind = .ok q.kind) (hspan : TextSpan.decoder span = .ok q.span) :
    decoder (.object [("kind", kind), ("text_span", span), ("display", .string q.display)]) =
        .ok q ∧
      decoder (.object [("display", .string q.display), ("kind", kind), ("text_span", span)]) =
        .ok q ∧
      decoder (.array [kind, span, .string q.display]) = .ok q := by
  refine ⟨?_, ?_, ?_⟩ <;>
    simp [decoder, Decoder.readFields, Decoder.readElements, fields, hkind, hspan, Decoder.text,
      ofDraft, Decoder.require]

theorem inRange_of_decoder {v : Json} {q : QuickInfo} (hv : v.EachNumber Json.Number.FitsWord)
    (h : decoder v = .ok q) : q.InRange := by
  have hfields : ∀ f ∈ fields, f.Keeps fun d ↦ ∀ s ∈ d.span, s.InRange := by
    simp only [fields, List.forall_mem_cons]
    refine ⟨.of_item fun _ _ hd ↦ hd, .of_item fun hv hs _ ↦ ?_, .of_item fun _ _ hd ↦ hd, by simp⟩
    simpa using TextSpan.roundTrips.inRange hv hs
  obtain ⟨draft, hspan, hdraft⟩ := Decoder.exists_of_record hfields (by simp) hv h
  obtain ⟨_, -, hdraft⟩ := Decoder.exists_of_bind hdraft
  obtain ⟨span, hrequire, hdraft⟩ := Decoder.exists_of_bind hdraft
  obtain ⟨_, -, hdraft⟩ := Decoder.exists_of_bind hdraft
  obtain rfl := Except.ok.inj hdraft
  exact hspan span (Decoder.require_eq_ok hrequire)

theorem roundTrips : RoundTrips toJson decoder InRange where
  decode_encode q := (decoder_eq_ok (ElementKind.roundTrips.decode_encode q.kind)
    (TextSpan.roundTrips.decode_encode q.span)).1
  decode_arranged q := (decoder_eq_ok (ElementKind.roundTrips.decode_arranged q.kind)
    (TextSpan.roundTrips.decode_arranged q.span)).2.1
  isWhole h := ⟨trivial, TextSpan.roundTrips.isWhole h, trivial, trivial⟩
  inRange := inRange_of_decoder

end QuickInfo

/-! ## All types -/

/-- **Every type that is exchanged is faithful to its written form.** -/
theorem isFaithful_all :
    IsFaithful ScriptKind.toJson ScriptKind.decoder (fun _ ↦ True) ∧
      IsFaithful Extension.toJson Extension.decoder (fun _ ↦ True) ∧
      IsFaithful Specifier.toJson Specifier.decoder (fun _ ↦ True) ∧
      IsFaithful ResolvedModule.toJson ResolvedModule.decoder (fun _ ↦ True) ∧
      IsFaithful Resolution.toJson Resolution.decoder (fun _ ↦ True) ∧
      IsFaithful TextSpan.toJson TextSpan.decoder TextSpan.InRange ∧
      IsFaithful ElementKind.toJson ElementKind.decoder (fun _ ↦ True) ∧
      IsFaithful Definition.toJson Definition.decoder Definition.InRange ∧
      IsFaithful DefinitionAnswer.toJson DefinitionAnswer.decoder DefinitionAnswer.InRange ∧
      IsFaithful QuickInfo.toJson QuickInfo.decoder QuickInfo.InRange := by
  refine ⟨?_, ?_, ?_, ?_, ?_, ?_, ?_, ?_, ?_, ?_⟩
  · exact ScriptKind.roundTrips.isFaithful (respelled_choice ScriptKind.find?_name)
  · exact Extension.roundTrips.isFaithful (respelled_choice Extension.find?_spelling)
  · exact Specifier.roundTrips.isFaithful fun _ ↦ rfl
  · exact ResolvedModule.roundTrips.isFaithful fun m ↦
      (ResolvedModule.decoder_eq_ok (Extension.roundTrips.decode_encode m.extension)).2.2
  · exact Resolution.roundTrips.isFaithful Resolution.respelled_toJson
  · exact TextSpan.roundTrips.isFaithful fun _ ↦ rfl
  · exact ElementKind.roundTrips.isFaithful (respelled_choice ElementKind.find?_name)
  · exact Definition.roundTrips.isFaithful fun d ↦
      (Definition.decoder_eq_ok (TextSpan.roundTrips.decode_encode d.span)
        (ElementKind.roundTrips.decode_encode d.kind)
        (ElementKind.roundTrips.decode_encode d.containerKind)).2.2
  · exact DefinitionAnswer.roundTrips.isFaithful fun a ↦
      (DefinitionAnswer.decoder_eq_ok (Definition.roundTrips.list.decode_encode a.definitions)
        (TextSpan.roundTrips.decode_encode a.span)).2
  · exact QuickInfo.roundTrips.isFaithful fun q ↦
      (QuickInfo.decoder_eq_ok (ElementKind.roundTrips.decode_encode q.kind)
        (TextSpan.roundTrips.decode_encode q.span)).2.2

/-- A span at the last position, given as an array, and a resolution given as an object without any
field: each has texts of its own from then on. -/
theorem isFaithful_all_of_other_forms :
    TextSpan.decoder.ofText "[18446744073709551615, 0]" =
        some (.ok ⟨18446744073709551615, 0⟩) ∧
      (∀ t ∈ (TextSpan.toJson ⟨18446744073709551615, 0⟩).texts,
        TextSpan.decoder.ofText t = some (.ok ⟨18446744073709551615, 0⟩)) ∧
      Resolution.decoder.ofText " \x7b\x7d " = some (.ok ⟨none, []⟩) ∧
      ∀ t ∈ (Resolution.toJson ⟨none, []⟩).texts,
        Resolution.decoder.ofText t = some (.ok ⟨none, []⟩) := by
  obtain ⟨-, -, -, -, hresolution, hspan, -⟩ := isFaithful_all
  have harray : TextSpan.decoder.ofText "[18446744073709551615, 0]" =
      some (.ok ⟨18446744073709551615, 0⟩) := by decide +kernel
  have hobject : Resolution.decoder.ofText " \x7b\x7d " = some (.ok ⟨none, []⟩) := by decide +kernel
  exact ⟨harray, (hspan.canonicalText _ _ harray).2, hobject,
    (hresolution.canonicalText _ _ hobject).2⟩

end HostOverlay
