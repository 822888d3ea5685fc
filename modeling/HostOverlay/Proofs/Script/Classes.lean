import HostOverlay.Proofs.Script.Endings

/-!
# The three classifiers side by side

A path is classified three times: as foreign or not, by the extension that a module is loaded as,
and by the grammar that it is parsed by.  All three go by the end of the path, each with endings of
its own, and the last one does not tell capital letters from small ones.

Of two endings of one path, one ends in the other, so two that are `Apart` never meet.  The foreign
ending is apart from all known ones, and the endings in the list of grammars are apart from each
other, so that each of them decides on its own, in whatever order they are tested.  The order
matters for extensions only, where `.d.ts` ends in `.ts`.

* `ScriptKind.ofPath_of_endsIn`: one known ending settles the grammar.
* `Extension.of?_eq_some_iff`: the extension is the longest known ending.
* `classes_consistent`: the three answers fit together.
-/

set_option autoImplicit false

namespace HostOverlay

/-! ## Endings that are apart -/

/-- Of two endings of one text, one ends in the other. -/
theorem endsIn_or_endsIn {s a b : String} (ha : endsIn s a = true) (hb : endsIn s b = true) :
    endsIn b a = true ∨ endsIn a b = true := by
  rw [endsIn_iff, endsIn_iff]
  exact List.suffix_or_suffix_of_suffix (endsIn_iff.1 ha) (endsIn_iff.1 hb)

theorem endsIn_trans {s a b : String} (ha : endsIn s a = true) (hb : endsIn a b = true) :
    endsIn s b = true :=
  endsIn_iff.2 ((endsIn_iff.1 hb).trans (endsIn_iff.1 ha))

/-- Neither of the two texts ends in the other. -/
def Apart (a b : String) : Prop :=
  endsIn a b = false ∧ endsIn b a = false

instance (a b : String) : Decidable (Apart a b) :=
  inferInstanceAs (Decidable (_ ∧ _))

/-- No text ends in both. -/
theorem Apart.endsIn_eq_false {s a b : String} (h : Apart a b) (ha : endsIn s a = true) :
    endsIn s b = false := by
  rw [Bool.eq_false_iff]
  intro hb
  rcases endsIn_or_endsIn ha hb with hin | hin
  · rw [h.2] at hin
    cases hin
  · rw [h.1] at hin
    cases hin

/-! ## Grammars -/

namespace ScriptKind

/-- An ending stays one when capital letters are made small. -/
theorem endsIn_lowerAscii {s ending : String} (h : endsIn s ending = true) :
    endsIn (lowerAscii s) (lowerAscii ending) = true := by
  rw [endsIn_iff] at h ⊢
  simpa only [lowerAscii, String.toList_ofList] using h.map Char.toLower

theorem ofPath_eq (path : String) : ofPath path =
    ((endings.find? fun x ↦ endsIn (lowerAscii path) x.1).map Prod.snd).getD unknown :=
  rfl

theorem eq_or_apart_of_mem_endings : ∀ x ∈ endings, ∀ y ∈ endings, x = y ∨ Apart x.1 y.1 := by
  decide

/-- **Every known ending decides on its own**, wherever it stands in the list. -/
theorem ofPath_of_endsIn {path ending : String} {kind : ScriptKind}
    (hmem : (ending, kind) ∈ endings) (h : endsIn (lowerAscii path) ending = true) :
    ofPath path = kind := by
  have hsome : (endings.find? fun x ↦ endsIn (lowerAscii path) x.1).isSome = true :=
    List.find?_isSome.2 ⟨(ending, kind), hmem, h⟩
  obtain ⟨found, hfound⟩ := Option.isSome_iff_exists.1 hsome
  have hends : endsIn (lowerAscii path) found.1 = true := by
    simpa using List.find?_some hfound
  rcases eq_or_apart_of_mem_endings _ (List.mem_of_find?_eq_some hfound) _ hmem with heq | hapart
  · rw [ofPath_eq, hfound, heq]
    rfl
  · rw [hapart.endsIn_eq_false hends] at h
    cases h

/-- Without a known ending the grammar is not known either. -/
theorem ofPath_of_forall_not_endsIn {path : String}
    (h : ∀ x ∈ endings, endsIn (lowerAscii path) x.1 = false) : ofPath path = unknown := by
  have hnone : (endings.find? fun x ↦ endsIn (lowerAscii path) x.1) = none :=
    List.find?_eq_none.2 fun x hx ↦ by simp [h x hx]
  rw [ofPath_eq, hnone]
  rfl

end ScriptKind

/-! ## Extensions -/

namespace Extension

/-- The grammar of the files with an extension. -/
def kind : Extension → ScriptKind
  | ts | dts => .ts
  | tsx => .tsx
  | js => .js
  | jsx => .jsx
  | json => .json

/-- A path has only one longest ending. -/
theorem IsLongest.unique {path : String} {e e' : Extension} (h : e.IsLongest path)
    (h' : e'.IsLongest path) : e = e' := by
  have hlength : e.spelling.length = e'.spelling.length :=
    Nat.le_antisymm (h'.length_le e h.endsIn) (h.length_le e' h'.endsIn)
  -- one of them ends in the other, and is no shorter
  rcases endsIn_or_endsIn h.endsIn h'.endsIn with hin | hin
  · rcases eq_of_isSuffix e e' (endsIn_iff.1 hin) with heq | ⟨rfl, rfl⟩
    · exact heq
    · cases hlength
  · rcases eq_of_isSuffix e' e (endsIn_iff.1 hin) with heq | ⟨rfl, rfl⟩
    · exact heq.symm
    · cases hlength

/-- **A path carries the longest extension that it ends in.** -/
theorem of?_eq_some_iff {path : String} {e : Extension} : of? path = some e ↔ e.IsLongest path := by
  refine ⟨isLongest_of_of?_eq_some, fun h ↦ ?_⟩
  obtain ⟨e', he'⟩ := Option.isSome_iff_exists.1 (isSome_of?_iff.2 ⟨e, h.endsIn⟩)
  rw [he', h.unique (isLongest_of_of?_eq_some he')]

/-- The list of grammars knows every extension, `.d.ts` by its end. -/
theorem exists_mem_endings (e : Extension) :
    ∃ ending, (ending, e.kind) ∈ ScriptKind.endings ∧
      HostOverlay.endsIn (ScriptKind.lowerAscii e.spelling) ending = true := by
  cases e with
  | ts | dts => exact ⟨".ts", by decide⟩
  | tsx => exact ⟨".tsx", by decide⟩
  | js => exact ⟨".js", by decide⟩
  | jsx => exact ⟨".jsx", by decide⟩
  | json => exact ⟨".json", by decide⟩

/-- **What ends in an extension is parsed by its grammar.** -/
theorem ofPath_of_endsIn {path : String} {e : Extension}
    (h : HostOverlay.endsIn path e.spelling = true) : ScriptKind.ofPath path = e.kind := by
  obtain ⟨ending, hmem, hending⟩ := exists_mem_endings e
  exact ScriptKind.ofPath_of_endsIn hmem (endsIn_trans (ScriptKind.endsIn_lowerAscii h) hending)

end Extension

/-! ## Foreign files -/

theorem apart_foreignEnding (e : Extension) : Apart foreignEnding e.spelling := by
  cases e <;> decide

/-- **No grammar is known for a foreign file.** -/
theorem ofPath_of_isForeign {path : String} (h : isForeign path = true) :
    ScriptKind.ofPath path = .unknown := by
  have hapart : ∀ x ∈ ScriptKind.endings, Apart (ScriptKind.lowerAscii foreignEnding) x.1 := by
    decide
  exact ScriptKind.ofPath_of_forall_not_endsIn fun x hx ↦
    (hapart x hx).endsIn_eq_false (ScriptKind.endsIn_lowerAscii h)

/-- **The three classifiers are consistent.**  A foreign path carries no extension and has no known
grammar.  A path carries an extension exactly when that is the longest of all that it ends in, and
such a path is not foreign and is parsed by the grammar of its extension. -/
theorem classes_consistent (path : String) :
    (isForeign path = true → Extension.of? path = none ∧ ScriptKind.ofPath path = .unknown) ∧
      ∀ e : Extension,
        (Extension.of? path = some e ↔ e.IsLongest path) ∧
          (Extension.of? path = some e →
            isForeign path = false ∧ ScriptKind.ofPath path = e.kind) := by
  have hnone (h : isForeign path = true) : Extension.of? path = none := by
    rw [← Option.not_isSome_iff_eq_none, Extension.isSome_of?_iff]
    rintro ⟨e, he⟩
    rw [(apart_foreignEnding e).endsIn_eq_false h] at he
    cases he
  refine ⟨fun h ↦ ⟨hnone h, ofPath_of_isForeign h⟩, fun e ↦ ⟨Extension.of?_eq_some_iff, fun h ↦ ?_⟩⟩
  refine ⟨?_, Extension.ofPath_of_endsIn (Extension.endsIn_of_of?_eq_some h)⟩
  rw [Bool.eq_false_iff]
  intro hforeign
  rw [hnone hforeign] at h
  cases h

/-- A foreign path with another ending inside it, and a path whose ending goes on with a shorter
one and stands behind a foreign directory. -/
theorem classes_consistent_of_nested_endings :
    (isForeign "/p/a.d.ts.tzen" = true ∧ Extension.of? "/p/a.d.ts.tzen" = none ∧
      ScriptKind.ofPath "/p/a.d.ts.tzen" = .unknown) ∧
    Extension.of? "/p.tzen/a.D.d.ts" = some .dts ∧ isForeign "/p.tzen/a.D.d.ts" = false ∧
      ScriptKind.ofPath "/p.tzen/a.D.d.ts" = .ts := by
  have hforeign : isForeign "/p/a.d.ts.tzen" = true := by decide
  have hdts : Extension.of? "/p.tzen/a.D.d.ts" = some .dts := by decide
  exact ⟨⟨hforeign, (classes_consistent "/p/a.d.ts.tzen").1 hforeign⟩, hdts,
    ((classes_consistent "/p.tzen/a.D.d.ts").2 .dts).2 hdts⟩

end HostOverlay
