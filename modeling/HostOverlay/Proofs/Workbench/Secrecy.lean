import HostOverlay.Proofs.Disk.Redaction
import HostOverlay.Proofs.Workbench.Answers

/-!
# What foreign files hold stays with them

Take two disks without links that differ in nothing but what is in their foreign files.  A workbench
that is opened on the one cannot be told from a workbench on the other, by any question but two: for
the version of a file, and for the content of a file that need not be a script.

Every other answer is a function of the disk that does not see the difference.  So it is enough to
show that redacting the disk does not change it: `filesOn_redacted`, `snapshotOn_redacted`,
`openedOn_redacted` and so on.  `sameAnswers_of_sameButForeign` puts them together.
-/

set_option autoImplicit false

namespace HostOverlay

/-- Two disks without links that differ in the content of foreign files only. -/
structure Disk.SameButForeign (d₁ d₂ : Disk) : Prop where
  isLinkFree_left : d₁.root.IsLinkFree
  isLinkFree_right : d₂.root.IsLinkFree
  redacted_eq : d₁.redacted = d₂.redacted

/-- What does not change when a disk is redacted is the same for both. -/
theorem Disk.SameButForeign.congr {d₁ d₂ : Disk} (h : d₁.SameButForeign d₂) {α : Type}
    {f : Disk → α} (hf : ∀ d : Disk, d.root.IsLinkFree → f d.redacted = f d) : f d₁ = f d₂ := by
  rw [← hf d₁ h.isLinkFree_left, ← hf d₂ h.isLinkFree_right, h.redacted_eq]

/-- A computation that reads nothing but what redaction leaves answers the same in both worlds. -/
theorem Reads.eq_of_sameButForeign {σ α : Type} [OnDisk σ] {x : StateM σ α} {f : Disk → α}
    (hx : Reads x f) {s₁ s₂ : σ} (hs : (OnDisk.disk s₁).SameButForeign (OnDisk.disk s₂))
    (hf : ∀ d : Disk, d.root.IsLinkFree → f d.redacted = f d) : (x s₁).1 = (x s₂).1 :=
  hx.congr (hs.congr hf)

namespace Workbench

section

variable {d : Disk} (hd : d.root.IsLinkFree)

include hd

theorem filesOn_redacted (root : String) : filesOn root d.redacted = filesOn root d := by
  rw [filesOn, filesOn, Disk.filesUnder_redacted hd]

theorem plainSnapshotOn_redacted {path : String} (h : isForeign path = false) :
    plainSnapshotOn path d.redacted = plainSnapshotOn path d := by
  rw [plainSnapshotOn, plainSnapshotOn, readText, readText, Disk.readText, Disk.readText,
    Disk.read_redacted hd h]

/-- **The snapshot of a file does not depend on what foreign files hold.** -/
theorem snapshotOn_redacted (source path : String) :
    snapshotOn source path d.redacted = snapshotOn source path d := by
  rw [snapshotOn, snapshotOn, Disk.present_redacted hd]
  cases hforeign : isForeign path with
  | false => exact plainSnapshotOn_redacted hd hforeign
  | true =>
    cases hpresent : d.present path with
    | error e => rfl
    | ok found =>
      cases found with
      | true => rfl
      | false =>
        have hpresent' := (Disk.present_redacted hd path).trans hpresent
        exact (plainSnapshotOn_of_absent hpresent').trans
          (plainSnapshotOn_of_absent hpresent).symm

theorem servedOn_redacted (source : String) (files : List String) :
    servedOn (snapshotOn source · d.redacted) files = servedOn (snapshotOn source · d) files := by
  simp only [snapshotOn_redacted hd]

theorem wordInfoOn_redacted (source path : String) (position : Nat) :
    wordInfoOn source path position d.redacted = wordInfoOn source path position d := by
  rw [wordInfoOn, wordInfoOn, snapshotOn_redacted hd]

theorem openedOn_redacted {σ : Type} [Traced σ] [OnDisk σ] (path : String) (settings : Settings) :
    (openedOn path settings d.redacted : Except Error (Workbench σ)) =
      openedOn path settings d := by
  simp only [openedOn, filesOn_redacted hd]
  rfl

end

/-! ## Two workbenches -/

variable {σ : Type} [Traced σ] [OnDisk σ]

/-- Two workbenches, each in its world, give the same answers, failures included. -/
structure SameAnswers (w₁ : Workbench σ) (s₁ : σ) (w₂ : Workbench σ) (s₂ : σ) : Prop where
  externalFiles : (w₁.externalFiles s₁).1 = (w₂.externalFiles s₂).1
  currentDirectory : (w₁.host.currentDirectory s₁).1 = (w₂.host.currentDirectory s₂).1
  scriptFileNames : (w₁.host.scriptFileNames s₁).1 = (w₂.host.scriptFileNames s₂).1
  scriptKind (path : String) : (w₁.host.scriptKind path s₁).1 = (w₂.host.scriptKind path s₂).1
  scriptSnapshot (path : String) :
    ((w₁.host.scriptSnapshot path).run s₁).1 = ((w₂.host.scriptSnapshot path).run s₂).1
  fileExists (path : String) : (w₁.host.fileExists path s₁).1 = (w₂.host.fileExists path s₂).1
  resolveModuleNames (specifiers : List Specifier) (containing : String)
    (options : ResolutionOptions) :
    ((w₁.host.resolveModuleNames specifiers containing options).run s₁).1 =
      ((w₂.host.resolveModuleNames specifiers containing options).run s₂).1
  definition (path : String) (position : Nat) :
    ((w₁.service.definition path position).run s₁).1 =
      ((w₂.service.definition path position).run s₂).1
  quickInfo (path : String) (position : Nat) :
    ((w₁.service.quickInfo path position).run s₁).1 =
      ((w₂.service.quickInfo path position).run s₂).1
  programFileNames :
    (w₁.service.programFileNames.run s₁).1 = (w₂.service.programFileNames.run s₂).1

variable [LawfulWorld σ]

theorem sameAnswers_opened (settings : Settings) (root : String) (files : List String)
    (home : String) {s₁ s₂ : σ} (hs : (OnDisk.disk s₁).SameButForeign (OnDisk.disk s₂)) :
    SameAnswers (opened settings root files home) s₁ (opened settings root files home) s₂ where
  externalFiles := (reads_externalFiles settings root files home).eq_of_sameButForeign hs
    fun d hd ↦ by rw [filesOn_redacted hd]
  currentDirectory := rfl
  scriptFileNames := rfl
  scriptKind path := (reads_scriptKind root files _ path).eq_of_sameButForeign hs fun _ _ ↦ rfl
  scriptSnapshot path := (reads_scriptSnapshot root files _ path).eq_of_sameButForeign hs
    fun d hd ↦ snapshotOn_redacted hd _ path
  fileExists path := (reads_fileExists root files _ path).eq_of_sameButForeign hs
    fun d hd ↦ Disk.isFile_redacted hd path
  resolveModuleNames specifiers containing options :=
    (reads_resolveModuleNames root files _ specifiers containing options).eq_of_sameButForeign hs
      fun d hd ↦ by rw [funext (Disk.isFile_redacted hd)]
  definition path position :=
    (reads_definition settings root files home path position).eq_of_sameButForeign hs
      fun _ _ ↦ rfl
  quickInfo path position :=
    (reads_quickInfo settings root files home path position).eq_of_sameButForeign hs
      fun d hd ↦ wordInfoOn_redacted hd _ path position
  programFileNames := (reads_programFileNames settings root files home).eq_of_sameButForeign hs
    fun d hd ↦ servedOn_redacted hd _ files

/-- **What foreign files hold does not show.**  Open the same path with the same settings on two
disks without links that differ in the content of foreign files only.  Either both attempts fail in
the same way, or the two workbenches give the same answers from then on, however their disks change,
as long as they still differ in no more than that. -/
theorem sameAnswers_of_sameButForeign {s₁ s₂ : σ}
    (hs : (OnDisk.disk s₁).SameButForeign (OnDisk.disk s₂)) (path : String)
    (settings : Settings) :
    (∃ e, ((openAt path settings).run s₁).1 = .error e ∧
      ((openAt path settings).run s₂).1 = .error e) ∨
    ∃ (w₁ w₂ : Workbench σ) (s₁' s₂' : σ), (openAt path settings).run s₁ = (.ok w₁, s₁') ∧
      (openAt path settings).run s₂ = (.ok w₂, s₂') ∧
      (OnDisk.disk s₁').SameButForeign (OnDisk.disk s₂') ∧
      ∀ t₁ t₂ : σ, (OnDisk.disk t₁).SameButForeign (OnDisk.disk t₂) → SameAnswers w₁ t₁ w₂ t₂ := by
  have hopen := reads_openAt (σ := σ) path settings
  have hsame := hopen.eq_of_sameButForeign hs fun d hd ↦ openedOn_redacted hd path settings
  have hdisk₁ := (hopen s₁).2
  have hdisk₂ := (hopen s₂).2
  rcases hrun₁ : (openAt path settings).run s₁ with ⟨answer, s₁'⟩
  rcases hrun₂ : (openAt path settings).run s₂ with ⟨answer', s₂'⟩
  rw [hrun₁] at hsame hdisk₁
  rw [hrun₂] at hsame hdisk₂
  obtain rfl : answer = answer' := hsame
  cases answer with
  | error e => exact .inl ⟨e, rfl, rfl⟩
  | ok w =>
    refine .inr ⟨w, w, s₁', s₂', rfl, rfl, by rwa [hdisk₁, hdisk₂], fun t₁ t₂ ht ↦ ?_⟩
    obtain ⟨root, home, -, rfl⟩ := exists_eq_opened hrun₁
    exact sameAnswers_opened settings root _ home ht

/-- A project with a source, and a foreign file with the given content. -/
def secretConsole (content : ByteArray) : Cli.Console where
  disk := ⟨.dir [("tmp", .dir [("tz000000", .dir [("p", .dir [
    ("a.ts", .file .empty 0), ("g.tzen", .file content 0)])])])], "/tmp/tz000000", none⟩

theorem sameButForeign_secretConsole (content₁ content₂ : ByteArray) :
    (OnDisk.disk (secretConsole content₁)).SameButForeign
      (OnDisk.disk (secretConsole content₂)) := by
  have hfree : ∀ content, (secretConsole content).disk.root.IsLinkFree := by
    intro content
    simp only [secretConsole, Node.isLinkFree_dir_iff, List.forall_mem_cons, List.not_mem_nil,
      false_imp_iff, forall_const, Node.IsLinkFree.file, and_true]
  exact ⟨hfree content₁, hfree content₂, rfl⟩

/-- A foreign file that is text and one that is not: two projects that answer alike. -/
theorem sameAnswers_of_secretConsole :
    let s₁ := secretConsole "type B = 2;".toUTF8
    let s₂ := secretConsole ⟨#[0xff]⟩
    s₁.disk.read "p/g.tzen" = .ok "type B = 2;".toUTF8 ∧
    s₂.disk.read "p/g.tzen" = .ok ⟨#[0xff]⟩ ∧
    ∃ (w₁ w₂ : Workbench Cli.Console) (s₁' s₂' : Cli.Console),
      (openAt "p" {}).run s₁ = (.ok w₁, s₁') ∧ (openAt "p" {}).run s₂ = (.ok w₂, s₂') ∧
      SameAnswers w₁ s₁' w₂ s₂' := by
  have hread₁ : (secretConsole "type B = 2;".toUTF8).disk.read "p/g.tzen" =
    .ok "type B = 2;".toUTF8 := rfl
  have hread₂ : (secretConsole ⟨#[0xff]⟩).disk.read "p/g.tzen" = .ok ⟨#[0xff]⟩ := rfl
  refine ⟨hread₁, hread₂, ?_⟩
  have hsame := sameButForeign_secretConsole "type B = 2;".toUTF8 ⟨#[0xff]⟩
  rcases sameAnswers_of_sameButForeign hsame "p" {} with
    ⟨e, he, -⟩ | ⟨w₁, w₂, s₁', s₂', h₁, h₂, hafter, hanswers⟩
  · obtain ⟨w, s', hopen⟩ := exists_openAt (show "p" ≠ "" by decide) {}
      (secretConsole "type B = 2;".toUTF8)
    rw [hopen] at he
    cases he
  · exact ⟨w₁, w₂, s₁', s₂', h₁, h₂, hanswers _ _ hafter⟩

end Workbench

end HostOverlay
