import HostOverlay.Proofs.Disk.Observers
import HostOverlay.Proofs.Host.Reading
import HostOverlay.Proofs.Workbench.Imports
import HostOverlay.Proofs.Workbench.Tracking

/-!
# The answers of a workbench

Everything that an open workbench is asked, it answers from the disk as it is at that moment, and
from what it was opened with: its root, its settings and the files that the project had then.  This
module says for each question how the answer comes from the disk.

* `reads_openAt`: what opening gives.  It is always the same workbench, `opened`, for a root, the
  files under it and the settings.
* `reads_scriptSnapshot`, `reads_programFileNames` and so on: the answers of that workbench.
-/

set_option autoImplicit false

namespace HostOverlay.Workbench

variable {σ : Type} [Traced σ] [OnDisk σ]

/-! ## Opening -/

/-- The files that the project at `root` has on a disk. -/
def filesOn (root : String) (d : Disk) : List String :=
  match d.filesUnder root with
  | .ok listing => projectFiles listing.files
  | .error _ => []

/-- The layer over the host of a workbench, with one text for all foreign files. -/
def layer (root : String) (files : List String) (source : String) : Host σ :=
  Overlay.host (diskHost root files) .onDisk (.placeholder source)

/-- The workbench for a root, the files that its project has when it is opened, and the root that
definitions are looked for from. -/
def opened (settings : Settings) (root : String) (files : List String) (home : String) :
    Workbench σ where
  root
  project := directoryProject root .diagnostics
  host := layer root files settings.placeholderSource
  service := Overlay.service (wordService (layer root files settings.placeholderSource))
    ⟨home, .diagnostics⟩ (.fixed settings.definitionFile)

/-- What comes of opening the directory at `path`. -/
def openedOn (path : String) (settings : Settings) (d : Disk) : Except Error (Workbench σ) :=
  match Path.absolute? d.workingDirectory path with
  | none => .error (.io .emptyPath)
  | some root =>
    (Context.rootOf d.workingDirectory (Path.join root "tsconfig.json")).mapError .io >>=
      fun home ↦ .ok (opened settings root (filesOn root d) home)

/-- A directory that opens has an absolute path and a root for its definitions. -/
theorem openedOn_eq_ok {path : String} {settings : Settings} {d : Disk} {w : Workbench σ}
    (h : openedOn path settings d = .ok w) :
    ∃ root home, Path.absolute? d.workingDirectory path = some root ∧
      Context.rootOf d.workingDirectory (Path.join root "tsconfig.json") = .ok home ∧
      w = opened settings root (filesOn root d) home := by
  rw [openedOn] at h
  split at h
  · cases h
  · rename_i root hroot
    cases hhome : Context.rootOf d.workingDirectory (Path.join root "tsconfig.json") with
    | error e =>
      rw [hhome] at h
      cases h
    | ok home =>
      rw [hhome] at h
      exact ⟨root, home, hroot, hhome, (Except.ok.inj h).symm⟩

section

variable [LawfulWorld σ]

theorem reads_noteSkipped (root reason : String) :
    Reads (noteSkipped root reason : StateM σ Unit) fun _ ↦ () :=
  Reads.trace _ _ _

theorem reads_fileNames (root : String) (logger : Logger σ) :
    Reads (directoryProject root logger).fileNames (filesOn root) := by
  refine Reads.getDisk.bind (g := fun d _ ↦ filesOn root d) fun d ↦ ?_
  rw [filesOn]
  cases d.filesUnder root with
  | error e => exact (reads_noteSkipped _ _).bind fun _ ↦ Reads.pure _
  | ok listing =>
    have hcomplaints : Reads (noteComplaints root listing.complaints : StateM σ Unit)
        fun _ ↦ () := by
      cases listing.complaints with
      | nil => exact Reads.pure ()
      | cons c cs => exact reads_noteSkipped _ _
    exact hcomplaints.bind fun _ ↦
      (Reads.forM (fun dir ↦ reads_noteSkipped root _) listing.unlisted).bind fun _ ↦ Reads.pure _

theorem reads_attach_null (p : Plugin σ) (project : Project σ) (inner : Host σ) :
    Reads (p.attach project inner .null).run fun d ↦
      (Context.rootOf d.workingDirectory project.name).mapError .io >>= fun home ↦
        .ok ⟨Overlay.host inner p.storage p.synthesizer,
          Overlay.service (p.factory (Overlay.host inner p.storage p.synthesizer))
            ⟨home, project.logger⟩ p.resolver⟩ :=
  Reads.getDisk.lift.request_bind fun _ ↦ (Reads.ofIo _).request_bind fun _ ↦
    (Reads.trace _ _ _).lift.request_bind fun _ ↦ Reads.pure _

/-- **What opening a directory gives.** -/
theorem reads_openAt (path : String) (settings : Settings) :
    Reads (openAt path settings : Request σ (Workbench σ)).run (openedOn path settings) := by
  refine (Reads.getDisk.lift.request_bind (g := fun d d' ↦
    match Path.absolute? d.workingDirectory path with
    | none => .error (.io .emptyPath)
    | some root =>
      (Context.rootOf d'.workingDirectory (Path.join root "tsconfig.json")).mapError .io >>=
        fun home ↦ .ok (opened settings root (filesOn root d') home)) fun d ↦ ?_).of_eq fun _ ↦ rfl
  simp only
  cases Path.absolute? d.workingDirectory path with
  | none => exact Reads.pure _
  | some root =>
    refine ((reads_fileNames root .diagnostics).lift.request_bind fun files ↦
      (reads_attach_null _ _ _).request_bind fun a ↦ Reads.pure _).of_eq fun d ↦ ?_
    have hname : (directoryProject root .diagnostics : Project σ).name =
        Path.join root "tsconfig.json" := rfl
    simp only [hname]
    cases Context.rootOf d.workingDirectory (Path.join root "tsconfig.json") with
    | error e => rfl
    | ok home => rfl

/-- A workbench that was opened is the one for its root and the files that it had. -/
theorem exists_eq_opened {path : String} {settings : Settings} {s s' : σ} {w : Workbench σ}
    (hopen : (openAt path settings).run s = (.ok w, s')) :
    ∃ root home, Path.absolute? (OnDisk.disk s).workingDirectory path = some root ∧
      w = opened settings root (filesOn root (OnDisk.disk s)) home := by
  have hreads := (reads_openAt path settings s).1
  rw [hopen] at hreads
  obtain ⟨root, home, hroot, -, hw⟩ := openedOn_eq_ok hreads.symm
  exact ⟨root, home, hroot, hw⟩

end

/-! ## The host -/

section

variable (root : String) (files : List String) (source path : String)

theorem reads_scriptKind : Reads ((layer root files source : Host σ).scriptKind path) fun _ ↦
    if isForeign path then .ts else .ofPath path := by
  cases h : isForeign path with
  | true =>
    rw [layer, Overlay.scriptKind_foreign _ _ _ h]
    exact Reads.pure _
  | false =>
    rw [layer, Overlay.scriptKind_other _ _ _ h]
    exact Reads.pure _

theorem reads_fileExists :
    Reads ((layer root files source : Host σ).fileExists path) fun d ↦ d.isFile path :=
  Reads.getDisk.bind fun _ ↦ Reads.pure _

/-- The snapshot that the disk itself has of a file. -/
def plainSnapshotOn (path : String) (d : Disk) : Except Error (Option Snapshot) :=
  (readText d path).mapError .io >>= fun text ↦ .ok (text.map Snapshot.mk)

/-- Where there is no file there is no snapshot of it. -/
theorem plainSnapshotOn_of_absent {d : Disk} {path : String} (h : d.present path = .ok false) :
    plainSnapshotOn path d = .ok none := by
  rw [plainSnapshotOn, readText, Disk.readText, Disk.read, Disk.present_eq_ok_false_iff.1 h]
  rfl

/-- The snapshot that a workbench has of a foreign file, once it is known whether that is there. -/
def foreignSnapshotOn (source path : String) (d : Disk) :
    Except IoError Bool → Except Error (Option Snapshot)
  | .error e => .error (.io e)
  | .ok true => .ok (some ⟨source⟩)
  | .ok false => plainSnapshotOn path d

/-- The snapshot that a workbench has of a file. -/
def snapshotOn (source path : String) (d : Disk) : Except Error (Option Snapshot) :=
  if isForeign path then foreignSnapshotOn source path d (d.present path)
  else plainSnapshotOn path d

theorem reads_plainSnapshot :
    Reads ((diskHost root files : Host σ).scriptSnapshot path).run (plainSnapshotOn path) :=
  Reads.getDisk.lift.request_bind fun _ ↦ (Reads.ofIo _).request_bind fun _ ↦ Reads.pure _

variable [LawfulWorld σ]

theorem reads_scriptSnapshot :
    Reads ((layer root files source : Host σ).scriptSnapshot path).run
      (snapshotOn source path) := by
  have hplain := reads_plainSnapshot (σ := σ) root files path
  have hpresent : Reads ((Storage.onDisk : Storage σ).present path) fun d ↦ d.present path :=
    Reads.getDisk.bind fun _ ↦ Reads.pure _
  cases h : isForeign path with
  | false =>
    rw [layer, Overlay.scriptSnapshot_other _ _ _ h]
    exact hplain.of_eq fun d ↦ (if_neg (by simp [h])).symm
  | true =>
    simp only [layer, Overlay.host, h, if_true]
    refine (hpresent.liftM.request_bind (g := fun answer d ↦ foreignSnapshotOn source path d answer)
      fun answer ↦ ?_).of_eq fun d ↦ (if_pos h).symm
    cases answer with
    | error e => exact Reads.pure _
    | ok found =>
      cases found with
      | false => exact hplain
      | true =>
        exact (Reads.trace _ _ _).lift.request_bind fun _ ↦
          ((Reads.trace _ _ _).lift.request_bind fun _ ↦ Reads.pure _).request_bind
            fun _ ↦ Reads.pure _

theorem reads_resolveModuleNames (specifiers : List Specifier) (containing : String)
    (options : ResolutionOptions) :
    Reads ((layer root files source : Host σ).resolveModuleNames specifiers containing
      options).run fun d ↦ .ok (specifiers.map (slot d.isFile options containing)) := by
  have hinner : Reads ((diskHost root files : Host σ).resolveModuleNames specifiers containing
      options).run fun d ↦ .ok (specifiers.map (resolveOne d.isFile options containing)) :=
    Reads.lift (resolveAll_run options containing specifiers)
  have hdisk : Reads ((layer root files source : Host σ).resolveModuleNames specifiers containing
      options).run fun d ↦ Except.ok (specifiers.map (resolveOne d.isFile options containing)) >>=
        fun found ↦ Overlay.redirected specifiers containing (.ok found) := by
    refine hinner.request_bind fun found ↦ ?_
    rw [Overlay.redirected]
    cases redirect specifiers containing found with
    | error cause => exact Reads.pure _
    | ok resolutions => exact Reads.pure _
  exact fun s ↦ ⟨layer_resolveModuleNames .., (hdisk s).2⟩

end

/-! ## The service -/

/-- Those of `files` that there is a snapshot of. -/
def servedOn (snapshot : String → Except Error (Option Snapshot)) :
    List String → Except Error (List String)
  | [] => .ok []
  | file :: rest => snapshot file >>= fun
    | some _ => servedOn snapshot rest >>= fun rest ↦ .ok (file :: rest)
    | none => servedOn snapshot rest

/-- What is shown for the word at a position. -/
def wordInfoOn (source path : String) (position : Nat) (d : Disk) :
    Except Error (Option QuickInfo) :=
  snapshotOn source path d >>= fun
    | none => .ok none
    | some snapshot => .ok ((wordAt snapshot.text position).map
        (wordInfo snapshot (if isForeign path then .ts else .ofPath path)))

section

variable [LawfulWorld σ] (settings : Settings) (root : String) (files : List String) (home : String)

theorem reads_served (source : String) (fs : List String) :
    Reads (served (layer root files source : Host σ) fs).run fun d ↦
      servedOn (snapshotOn source · d) fs := by
  induction fs with
  | nil => exact Reads.pure _
  | cons f fs ih =>
    refine (reads_scriptSnapshot root files source f).request_bind fun answer ↦ ?_
    cases answer with
    | none => exact ih
    | some snapshot => exact ih.request_bind fun _ ↦ Reads.pure _

theorem reads_programFileNames :
    Reads (opened settings root files home : Workbench σ).service.programFileNames.run fun d ↦
      servedOn (snapshotOn settings.placeholderSource · d) files :=
  (Reads.pure files).lift.request_bind fun _ ↦ reads_served root files _ _

theorem reads_quickInfo (path : String) (position : Nat) :
    Reads ((opened settings root files home : Workbench σ).service.quickInfo path position).run
      (wordInfoOn settings.placeholderSource path position) := by
  refine (reads_scriptSnapshot root files settings.placeholderSource path).request_bind
    fun answer ↦ ?_
  cases answer with
  | none => exact Reads.pure _
  | some snapshot =>
    simp only
    cases wordAt snapshot.text position with
    | none => exact Reads.pure _
    | some span =>
      exact (reads_scriptKind root files settings.placeholderSource path).lift.request_bind
        fun _ ↦ Reads.pure _

theorem reads_definition (path : String) (position : Nat) :
    Reads ((opened settings root files home : Workbench σ).service.definition path position).run
      fun _ ↦ .ok (some ⟨[DefinitionResolver.fixedDefinition
        (Path.resolve home settings.definitionFile)], ⟨0, 0⟩⟩) :=
  (Reads.pure _).liftM.request_bind fun _ ↦ (Reads.trace _ _ _).liftM.request_bind fun _ ↦
    (Reads.pure _).request_bind fun _ ↦ Reads.pure _

theorem reads_externalFiles :
    Reads (opened settings root files home : Workbench σ).externalFiles fun d ↦
      (filesOn root d).filter isForeign :=
  (reads_fileNames root _).bind fun _ ↦ Reads.pure _

end

end HostOverlay.Workbench
