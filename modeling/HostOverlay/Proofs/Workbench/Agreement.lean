import HostOverlay.Proofs.Settings.File
import HostOverlay.Proofs.Workbench.Presence

/-!
# Four questions about one path

A workbench asks the disk about a path in four ways: for its text, whether storage has it, whether
it is a file, and for its version.  Each way says in its own terms that there is nothing: an absent
text, a `false`, a failure that becomes an answer, a zero.

`Observed` lists the five combinations of answers that occur, each with what the path leads to, and
everything that the answers have to do with one another is read off the list: `observers_agree`.
-/

set_option autoImplicit false

namespace HostOverlay.Workbench

/-- What a path leads to, and the answers to the four questions as they occur together: the text,
whether storage has it, whether it is a file, and its version. -/
inductive Observed : Except IoError (Place × Node) → Except IoError (Option String) →
    Except IoError Bool → Bool → String → Prop
  /-- There is nothing. -/
  | absent : Observed (.error .notFound) (.ok none) (.ok false) false "0"
  /-- The path cannot be followed, for a reason other than that there is nothing. -/
  | failure (e : IoError) (he : e ≠ .notFound) :
    Observed (.error e) (.error e) (.error e) false "0"
  | textFile (place : Place) (text : String) (modified : Int) (version : String)
    (hversion : version ≠ "0") :
    Observed (.ok (place, .file text.toUTF8 modified)) (.ok (some text)) (.ok true) true version
  /-- A file whose bytes are no text. -/
  | otherFile (place : Place) (content : ByteArray) (modified : Int) (version : String)
    (hcontent : String.fromUTF8? content = none) (hversion : version ≠ "0") :
    Observed (.ok (place, .file content modified)) (.error .invalidText) (.ok true) true version
  | directory (place : Place) (entries : List (String × Node)) (version : String)
    (hversion : version ≠ "0") :
    Observed (.ok (place, .dir entries)) (.error .isDirectory) (.ok true) false version

/-- Bytes that are read as a text are its bytes. -/
theorem eq_toUTF8_of_fromUTF8? {content : ByteArray} {text : String}
    (h : String.fromUTF8? content = some text) : content = text.toUTF8 := by
  rw [String.fromUTF8?] at h
  split at h
  · rw [← Option.some.inj h]
    rfl
  · cases h

section

variable {d : Disk} {path : String}

theorem observed_of_error {e : IoError} (h : d.lookup path = .error e) :
    Observed (.error e) (readText d path) (d.present path) (d.isFile path) (version d path) := by
  have hfile : d.isFile path = false := by rw [Disk.isFile, h]
  have htext : d.readText path = .error e := by
    rw [Disk.readText, Disk.read, h]
    rfl
  rw [hfile, version_of_error h]
  by_cases he : e = .notFound
  · subst he
    rw [Disk.present_eq_ok_false_iff.2 h, readText, htext]
    exact .absent
  · have hpresent : d.present path = .error e := by
      rw [Disk.present, h]
      split <;> simp_all
    have hread : readText d path = .error e := by
      rw [readText, htext]
      split <;> simp_all
    rw [hpresent, hread]
    exact .failure e he

theorem observed_of_file {place : Place} {content : ByteArray} {modified : Int}
    (h : d.lookup path = .ok (place, .file content modified)) :
    Observed (.ok (place, .file content modified)) (readText d path) (d.present path)
      (d.isFile path) (version d path) := by
  have hfile : d.isFile path = true := by
    rw [Disk.isFile, h]
    rfl
  have hread := Disk.read_of_lookup h
  rw [hfile, Disk.present_eq_ok_true_iff.2 ⟨_, h⟩, readText]
  cases htext : String.fromUTF8? content with
  | some text =>
    rw [Disk.readText_of_text hread htext, eq_toUTF8_of_fromUTF8? htext]
    exact .textFile place text modified _ (version_of_found h)
  | none =>
    rw [Disk.readText_of_not_text hread htext]
    exact .otherFile place content modified _ htext (version_of_found h)

theorem observed_of_directory {place : Place} {entries : List (String × Node)}
    (h : d.lookup path = .ok (place, .dir entries)) :
    Observed (.ok (place, .dir entries)) (readText d path) (d.present path) (d.isFile path)
      (version d path) := by
  have hfile : d.isFile path = false := by
    rw [Disk.isFile, h]
    rfl
  have hread : readText d path = .error .isDirectory := by
    rw [readText, Disk.readText, Disk.read, h]
    rfl
  rw [hfile, hread, Disk.present_eq_ok_true_iff.2 ⟨_, h⟩]
  exact .directory place entries _ (version_of_found h)

/-- **What can be observed at a path.** -/
theorem observed (d : Disk) (path : String) :
    Observed (d.lookup path) (readText d path) (d.present path) (d.isFile path)
      (version d path) := by
  rcases d.lookup_cases path with ⟨e, h⟩ | ⟨place, content, modified, h⟩ | ⟨place, entries, h⟩
  · rw [h]
    exact observed_of_error h
  · rw [h]
    exact observed_of_file h
  · rw [h]
    exact observed_of_directory h

end

variable {σ : Type} [Traced σ] [OnDisk σ]

theorem reads_fileContent (root : String) (files : List String) (path : String) :
    Reads ((diskHost root files : Host σ).fileContent path).run fun d ↦
      (readText d path).mapError .io :=
  Reads.getDisk.lift.request_bind fun _ ↦ Reads.ofIo _

/-- **The observers of a disk agree on every path.**  The text is absent exactly when storage has
nothing.  Where storage fails, reading fails in the same way.  What is a file is there, and is read
as text unless it is none; what is read as text is a file.  The version is not zero exactly when
storage has something.  And storage has something exactly when the path leads somewhere; the text
is that of the file that it leads to. -/
theorem observers_agree (root : String) (files : List String) (path : String) (s : σ) :
    let host : Host σ := diskHost root files
    let content := ((host.fileContent path).run s).1
    let present := ((Storage.onDisk : Storage σ).present path s).1
    let isFile := (host.fileExists path s).1
    let version := (host.scriptVersion path s).1
    (content = .ok none ↔ present = .ok false) ∧
      (∀ e, present = .error e → content = .error (.io e)) ∧
      (isFile = true → present = .ok true ∧
        ((∃ text, content = .ok (some text)) ∨ content = .error (.io .invalidText))) ∧
      (∀ text, content = .ok (some text) → isFile = true) ∧
      (version ≠ "0" ↔ present = .ok true) ∧
      (present = .ok true ↔ ∃ found, (OnDisk.disk s).lookup path = .ok found) ∧
      ∀ text, content = .ok (some text) ↔ ∃ place modified,
        (OnDisk.disk s).lookup path = .ok (place, .file text.toUTF8 modified) := by
  intro host content present isFile version
  have hcontent : content = (readText (OnDisk.disk s) path).mapError .io :=
    (reads_fileContent root files path s).1
  have hpresent : present = (OnDisk.disk s).present path := rfl
  have hisFile : isFile = (OnDisk.disk s).isFile path := rfl
  have hversion : version = Workbench.version (OnDisk.disk s) path := rfl
  have hobserved := observed (OnDisk.disk s) path
  rw [← hpresent, ← hisFile, ← hversion] at hobserved
  rw [hcontent]
  clear_value content present isFile version
  generalize readText (OnDisk.disk s) path = text at hobserved
  generalize (OnDisk.disk s).lookup path = found at hobserved
  cases hobserved with
  | absent => simp [Except.mapError]
  | failure e he => simp [Except.mapError]
  | textFile place text modified version hne => simp [Except.mapError, hne, String.toByteArray_inj]
  | otherFile place content modified version htext hne =>
    have hother (text : String) : content ≠ text.toByteArray := by
      rintro rfl
      cases htext.symm.trans (Settings.fromUTF8?_toUTF8 text)
    simp [Except.mapError, hne, hother]
  | directory place entries version hne => simp [Except.mapError, hne]

/-- A link that leads to itself, and a link to a file that is no text. -/
theorem observers_agree_on_links :
    let host : Host Cli.Console := diskHost "/tmp/tz000000" []
    let storage : Storage Cli.Console := .onDisk
    let s := workConsole
      [("a.ts", .link "a.ts"), ("b.ts", .link "c.ts"), ("c.ts", .file ⟨#[0xff]⟩ 0)]
    ((storage.present "a.ts" s).1 = .error .tooManyLinks ∧
      ((host.fileContent "a.ts").run s).1 = .error (.io .tooManyLinks)) ∧
      (host.fileExists "b.ts" s).1 = true ∧ (storage.present "b.ts" s).1 = .ok true := by
  intro host storage s
  obtain ⟨-, hfailure, -⟩ := observers_agree "/tmp/tz000000" [] "a.ts" s
  obtain ⟨-, -, hfile, -⟩ := observers_agree "/tmp/tz000000" [] "b.ts" s
  have hloop : (OnDisk.disk s).present "a.ts" = .error .tooManyLinks := by decide +kernel
  have hexists : (OnDisk.disk s).isFile "b.ts" = true := by decide +kernel
  exact ⟨⟨hloop, hfailure _ hloop⟩, hexists, (hfile hexists).1⟩

end HostOverlay.Workbench
