import HostOverlay.Proofs.Disk.Write
import HostOverlay.Proofs.Toml.Text
import HostOverlay.Settings.File

/-!
# Settings that are saved can be loaded

A settings file has a line for each setting: a key without quotes, and a text.

* `lines?_write`: such a line is read, and what is behind it is left.
* `ofToml?_toToml`: so the text of a file is read back, whatever the settings are.
* `eq_of_save_eq_error`: a save that fails has changed nothing.
* `load_of_save`: the same on a disk, since a file that was written is what its path leads to.
-/

set_option autoImplicit false

namespace HostOverlay

namespace Toml

/-! ## A line with a text -/

theorem skipBlanks_cons {c : Char} (h : isBlank c = false) (cs : List Char) :
    skipBlanks (c :: cs) = c :: cs := by
  rw [skipBlanks, List.dropWhile_cons_of_neg (by simp [h])]

/-- A word that is a key without quotes. -/
structure IsBareWord (word : List Char) : Prop where
  ne_nil : word ≠ []
  isBare : ∀ c ∈ word, isBareChar c = true

instance (word : List Char) : Decidable (IsBareWord word) :=
  decidable_of_iff (word ≠ [] ∧ word.all isBareChar = true)
    ⟨fun ⟨h₁, h₂⟩ ↦ ⟨h₁, List.all_eq_true.1 h₂⟩, fun h ↦ ⟨h.1, List.all_eq_true.2 h.2⟩⟩

/-- The first character of a bare word is none that begins anything else. -/
theorem IsBareWord.exists_cons {word : List Char} (h : IsBareWord word) :
    ∃ c rest, word = c :: rest ∧ isBareChar c = true ∧
      c ∉ ['"', '\x27', ' ', '\t', '#', '\n', '\r', '['] := by
  obtain ⟨c, rest, rfl⟩ := List.exists_cons_of_ne_nil h.ne_nil
  have hc := h.isBare c List.mem_cons_self
  refine ⟨c, rest, rfl, hc, fun hmem ↦ ?_⟩
  have hnone : ['"', '\x27', ' ', '\t', '#', '\n', '\r', '['].any isBareChar = false := by decide
  exact List.any_eq_false.1 hnone c hmem hc

theorem key?_bare {word : List Char} (h : IsBareWord word) (budget : Nat) (rest : List Char) :
    key? (budget + 1) (word ++ ' ' :: '=' :: rest) =
      some (([], String.ofList word), '=' :: rest) := by
  obtain ⟨c, word', hword, hc, hfirst⟩ := h.exists_cons
  simp only [List.mem_cons, List.not_mem_nil, or_false, not_or] at hfirst
  obtain ⟨hquote, hapostrophe, hspace, htab, -⟩ := hfirst
  have hpart : keyPart? (word ++ ' ' :: '=' :: rest) =
      some (String.ofList word, ' ' :: '=' :: rest) := by
    have htake : (word ++ ' ' :: '=' :: rest).takeWhile isBareChar = word := by
      rw [List.takeWhile_append_of_pos h.isBare]
      simp [show isBareChar ' ' = false by decide]
    have hdrop : (word ++ ' ' :: '=' :: rest).dropWhile isBareChar = ' ' :: '=' :: rest := by
      rw [List.dropWhile_append_of_pos h.isBare]
      simp [show isBareChar ' ' = false by decide]
    rw [hword, List.cons_append] at htake hdrop ⊢
    rw [keyPart?, if_neg hquote, if_neg hapostrophe, if_pos hc, htake, hdrop]
  have hblank : skipBlanks (word ++ ' ' :: '=' :: rest) = word ++ ' ' :: '=' :: rest := by
    rw [hword, List.cons_append, skipBlanks_cons (by simp [isBlank, hspace, htab])]
  rw [key?, hblank, hpart]
  rfl

/-- A text begins with a quote, whatever its form. -/
theorem Form.exists_write_eq_cons (cs : List Char) (form : Form) :
    ∃ q tail, form.write cs = q :: tail ∧ (q = '"' ∨ q = '\x27') := by
  cases form with
  | basic => exact ⟨_, _, rfl, .inl rfl⟩
  | literal => exact ⟨_, _, rfl, .inr rfl⟩
  | multiBasic => exact ⟨_, _, rfl, .inl rfl⟩
  | multiLiteral => exact ⟨_, _, rfl, .inr rfl⟩

/-- The value that a text with a line break behind it stands for. -/
theorem value?_write (depth : Nat) (cs rest : List Char) :
    value? depth ((Form.choose cs).write cs ++ '\n' :: rest) =
      some (.text (String.ofList cs), '\n' :: rest) := by
  have htext : text? ((Form.choose cs).write cs ++ '\n' :: rest) = some (cs, '\n' :: rest) :=
    text?_write cs (by simp) (by simp)
  obtain ⟨q, tail, hwrite, hq⟩ := Form.exists_write_eq_cons cs (Form.choose cs)
  rw [hwrite, List.cons_append] at htext ⊢
  rw [value?.eq_def]
  have hquote : (q = '"' || q = '\x27') = true := by simpa using hq
  simp only [hquote, if_true, htext, Option.map_some]

/-- A key and a text, on a line of their own. -/
theorem pair?_write {word : List Char} (h : IsBareWord word) (depth : Nat) (cs rest : List Char) :
    pair? (value? depth)
        (word ++ ' ' :: '=' :: ' ' :: ((Form.choose cs).write cs ++ '\n' :: rest)) =
      some (([], String.ofList word), .text (String.ofList cs), '\n' :: rest) := by
  have hblank : skipBlanks (' ' :: ((Form.choose cs).write cs ++ '\n' :: rest)) =
      (Form.choose cs).write cs ++ '\n' :: rest := by
    obtain ⟨q, tail, hwrite, hq⟩ := Form.exists_write_eq_cons cs (Form.choose cs)
    rw [hwrite, skipBlanks, List.dropWhile_cons_of_pos (by decide), ← skipBlanks]
    exact skipBlanks_cons (by rcases hq with rfl | rfl <;> decide) _
  rw [pair?, maxDepth, key?_bare h]
  simp only [bind, Option.bind, expect?, if_true, hblank, value?_write]
  rfl

/-- **One line is read**, and the lines behind it are left. -/
theorem lines?_write {word : List Char} (h : IsBareWord word) (cs rest : List Char) (d : Document)
    (budget : Nat) :
    Document.lines? (budget + 1) d
        (word ++ ' ' :: '=' :: ' ' :: ((Form.choose cs).write cs ++ '\n' :: rest)) =
      (d.add [] (String.ofList word) (.text (String.ofList cs))).bind fun d' ↦
        Document.lines? budget d' rest := by
  have hpair := pair?_write h maxDepth cs rest
  obtain ⟨c, word', hword, -, hfirst⟩ := h.exists_cons
  simp only [List.mem_cons, List.not_mem_nil, or_false, not_or] at hfirst
  obtain ⟨-, -, hspace, htab, hhash, hn, hr, hbracket⟩ := hfirst
  rw [hword, List.cons_append] at hpair ⊢
  rw [Document.lines?, skipBlanks_cons (by simp [isBlank, hspace, htab])]
  simp only [List.isEmpty_cons, Bool.false_eq_true, if_false, Document.line?, hhash, hn, hr,
    hbracket, decide_false, Bool.or_self, hpair, bind, Option.bind]
  cases d.add [] (String.ofList (c :: word')) (.text (String.ofList cs)) with
  | none => rfl
  | some d' => rfl

end Toml

namespace Settings

/-! ## The text of a file -/

theorem toList_assignment (key value : String) :
    (assignment key value).toList =
      key.toList ++ ' ' :: '=' :: ' ' ::
        ((Toml.Form.choose value.toList).write value.toList ++ ['\n']) := by
  simp [assignment, Toml.writeText, String.toList_append]

/-- The document in a settings file has the two settings and nothing else. -/
theorem parse?_toToml (s : Settings) :
    Toml.parse? s.toToml = some [(definitionKey, .text s.definitionFile),
      (placeholderKey, .text s.placeholderSource)] := by
  have hlist : s.toToml.toList = definitionKey.toList ++ ' ' :: '=' :: ' ' ::
      ((Toml.Form.choose s.definitionFile.toList).write s.definitionFile.toList ++ '\n' ::
        (placeholderKey.toList ++ ' ' :: '=' :: ' ' ::
          ((Toml.Form.choose s.placeholderSource.toList).write s.placeholderSource.toList ++
            '\n' :: []))) := by
    rw [toToml, String.toList_append, toList_assignment, toList_assignment]
    simp
  have hmark : Toml.skipMark s.toToml.toList = s.toToml.toList := by
    rw [hlist]
    rfl
  -- there is a line for each setting, and room for one more
  obtain ⟨budget, hbudget⟩ : ∃ budget, s.toToml.toList.length + 1 = budget + 1 + 1 + 1 := by
    refine ⟨s.toToml.toList.length - 2, ?_⟩
    have hlength : 2 ≤ s.toToml.toList.length := by
      rw [hlist, List.length_append]
      exact Nat.le_trans (show 2 ≤ definitionKey.toList.length by decide) (Nat.le_add_right _ _)
    omega
  have hlines : Toml.Document.lines? (budget + 1 + 1 + 1) {} s.toToml.toList =
      some ⟨[(definitionKey, .text s.definitionFile), (placeholderKey, .text s.placeholderSource)],
        []⟩ := by
    have hkeys : Toml.IsBareWord definitionKey.toList ∧ Toml.IsBareWord placeholderKey.toList := by
      decide
    have hfirst : ({} : Toml.Document).add [] definitionKey (.text s.definitionFile) =
      some ⟨[(definitionKey, .text s.definitionFile)], []⟩ := rfl
    have hsecond : (⟨[(definitionKey, .text s.definitionFile)], []⟩ : Toml.Document).add []
        placeholderKey (.text s.placeholderSource) =
      some ⟨[(definitionKey, .text s.definitionFile), (placeholderKey, .text s.placeholderSource)],
        []⟩ := rfl
    rw [hlist, Toml.lines?_write hkeys.1, String.ofList_toList, String.ofList_toList, hfirst,
      Option.bind_some, Toml.lines?_write hkeys.2, String.ofList_toList, String.ofList_toList,
      hsecond]
    rfl
  rw [Toml.parse?, hmark, hbudget, hlines]
  rfl

/-- **The text of a settings file is read back.** -/
theorem ofToml?_toToml (s : Settings) : ofToml? s.toToml = some s := by
  rw [ofToml?, parse?_toToml]
  rfl

/-! ## Files -/

theorem fromUTF8?_toUTF8 (text : String) : String.fromUTF8? text.toUTF8 = some text :=
  dif_pos text.isValidUTF8

/-- Loading settings changes nothing. -/
theorem run_load (d : Disk) (path : String) :
    (load path).run d = (((load path).run d).1, d) := by
  rw [load, run_get_bind]
  split
  · split
    · rfl
    · split
      · rfl
      · rfl
  · rfl

theorem load_of_lookup {d : Disk} {path : String} {place : Place} {s : Settings} {modified : Int}
    (h : d.lookup path = .ok (place, .file s.toToml.toUTF8 modified)) :
    (load path).run d = (.ok (some s), d) := by
  have hthere : d.leadsSomewhere path = true := by
    rw [Disk.leadsSomewhere, h]
    rfl
  have htext : d.readText path = .ok s.toToml :=
    Disk.readText_of_text (Disk.read_of_lookup h) (fromUTF8?_toUTF8 _)
  rw [load, run_get_bind, if_pos hthere, htext]
  simp only [ofToml?_toToml]
  rfl

/-- **Saving settings** refuses what is there already, fails as the write does, or succeeds with
what the write did. -/
theorem run_save_cases (d : Disk) (path : String) (s : Settings) (force : Bool) :
    (d.leadsSomewhere path = true ∧ force = false ∧
      (save path s force).run d = (.error (.taken path), d)) ∨
    (d.leadsSomewhere path = true → force = true) ∧
      ((∃ e, (save path s force).run d = (.error (.io e), d)) ∨
        ∃ l, d.locate .writing path = .ok l ∧ d.root.IsOpenAt l.place ∧
          (save path s force).run d = (.ok (), d.putAt l.place (.file s.toToml.toUTF8 0))) := by
  rw [save, run_get_bind]
  split
  · rename_i htaken
    rw [Bool.and_eq_true, Bool.not_eq_true'] at htaken
    exact .inl ⟨htaken.1, htaken.2, rfl⟩
  · rename_i hfree
    refine .inr ⟨fun hthere ↦ by simpa [hthere] using hfree, ?_⟩
    have hadapt : (ExceptT.adapt FileError.io (Disk.write path s.toToml.toUTF8)).run d =
        (((Disk.write path s.toToml.toUTF8).run d).1.mapError FileError.io,
          ((Disk.write path s.toToml.toUTF8).run d).2) := rfl
    rw [hadapt]
    rcases Disk.run_write_cases d path s.toToml.toUTF8 with
      ⟨e, hwrite⟩ | ⟨l, hlocate, hopen, hwrite⟩
    · exact .inl ⟨e, by rw [hwrite]; rfl⟩
    · exact .inr ⟨l, hlocate, hopen, by rw [hwrite]; rfl⟩

/-- **A save that fails** has changed nothing. -/
theorem eq_of_save_eq_error {d d' : Disk} {path : String} {s : Settings} {force : Bool}
    {e : FileError} (h : (save path s force).run d = (.error e, d')) : d' = d := by
  rcases run_save_cases d path s force with
    ⟨-, -, hsave⟩ | ⟨-, ⟨e, hsave⟩ | ⟨l, -, -, hsave⟩⟩
  · exact (Prod.mk.inj (h.symm.trans hsave)).2
  · exact (Prod.mk.inj (h.symm.trans hsave)).2
  · cases (Prod.mk.inj (h.symm.trans hsave)).1

/-- **Settings that were saved are loaded again**, whatever they are, wherever they were saved and
whatever else is on the disk. -/
theorem load_of_save {d d' : Disk} {path : String} {s : Settings} {force : Bool}
    (h : (save path s force).run d = (.ok (), d')) :
    (load path).run d' = (.ok (some s), d') := by
  rcases run_save_cases d path s force with
    ⟨-, -, hsave⟩ | ⟨-, ⟨e, hsave⟩ | ⟨l, hlocate, hopen, hsave⟩⟩
  · cases (Prod.mk.inj (hsave.symm.trans h)).1
  · cases (Prod.mk.inj (hsave.symm.trans h)).1
  · obtain ⟨-, rfl⟩ := Prod.mk.inj (hsave.symm.trans h)
    exact load_of_lookup (Disk.lookup_putAt hlocate hopen _ _)

/-- A directory with a link to a settings file that is not there yet. -/
def linkDisk : Disk where
  root := .dir [("w", .dir [("link.toml", .link "tzen.toml")])]
  workingDirectory := "/w"

/-- Settings with quotes of both kinds in a row, a backslash, line breaks and characters that have
to be escaped. -/
def oddSettings : Settings :=
  ⟨"\n\"\"\"\"\r\n\x27\x27\x27\\\"\"", "a\x00\"\x27"⟩

/-- Odd settings, saved through a link. -/
theorem load_of_save_through_link :
    ∃ d', (save "link.toml" oddSettings false).run linkDisk = (.ok (), d') ∧
      (load "link.toml").run d' = (.ok (some oddSettings), d') := by
  have hsave : ∃ d', (save "link.toml" oddSettings false).run linkDisk = (.ok (), d') := ⟨_, rfl⟩
  obtain ⟨d', hsave⟩ := hsave
  exact ⟨d', hsave, load_of_save hsave⟩

end Settings

end HostOverlay
