import HostOverlay.Host.Basic
import HostOverlay.Disk.Walk

/-!
# A project in a directory

The files of the project are the script files and the foreign files in and below its directory, in
the order of their bytes.  They are looked for anew every time, and ignore files are honoured.  A
path that is no text goes by the text that it is shown as.
-/

set_option autoImplicit false

namespace HostOverlay.Workbench

variable {σ : Type}

/-- Is it a file that a project consists of: a foreign file, or one with a known extension that is
not data?  -/
def isProjectFile (path : String) : Bool :=
  isForeign path || (match Extension.of? path with
    | some e => e ≠ .json
    | none => false)

/-- Texts in ascending order of their bytes. -/
def sorted (paths : List String) : List String :=
  paths.mergeSort fun a b => !decide (b < a)

/-- The files of a project among those that were found, as they are shown and in order. -/
def projectFiles (found : List String) : List String :=
  sorted ((found.map Path.shown).filter isProjectFile)

/-- The diagnostic about something under `root` that could not be read. -/
def skippedText (root reason : String) : String :=
  "Skipping unreadable entry under " ++ root ++ ": " ++ reason

/-- The reason why the directory at a written path could not be listed. -/
def unreadableReason (path : String) (e : IoError) : String :=
  Path.shown path ++ ": IO error for operation on " ++ Path.shown path ++ ": " ++ e.message

/-- Write a diagnostic about something under `root` that could not be read. -/
def noteSkipped [Traced σ] (root reason : String) : StateM σ Unit :=
  trace .warn "tzen_bridge::workbench::project" (skippedText root reason)

/-- Write one diagnostic about all complaints, if there are any. -/
def noteComplaints [Traced σ] (root : String) : List Ignore.Complaint → StateM σ Unit
  | [] => pure ()
  | complaints =>
    noteSkipped root (String.intercalate "\n" (complaints.map Ignore.Complaint.message))

/-- Write a diagnostic about each directory that could not be listed. -/
def noteUnlisted [Traced σ] (root : String) (dirs : List String) : StateM σ Unit :=
  dirs.forM fun dir => noteSkipped root (unreadableReason dir .nameTooLong)

/-- The files of the project at `root`; a directory that cannot be listed has none. -/
def listFiles [Traced σ] [OnDisk σ] (root : String) : StateM σ (List String) := do
  let disk : Disk ← getDisk
  match disk.filesUnder root with
  | .ok listing =>
    noteComplaints root listing.complaints
    noteUnlisted root listing.unlisted
    return projectFiles listing.files
  | .error e =>
    noteSkipped root (unreadableReason root e)
    return []

/-- The project at `root`, with the given log. -/
def directoryProject [Traced σ] [OnDisk σ] (root : String) (logger : Logger σ) : Project σ where
  name := Path.join root "tsconfig.json"
  fileNames := listFiles root
  logger

end HostOverlay.Workbench
