import HostOverlay.Overlay.Plugin
import HostOverlay.Workbench.Host
import HostOverlay.Workbench.Project
import HostOverlay.Workbench.Service

/-!
# The workbench

A workbench is a directory opened as a project, with the layer attached to a host over the disk.  It
needs no editor.
-/

set_option autoImplicit false

namespace HostOverlay

/-- A directory opened as a project with the layer attached. -/
structure Workbench (σ : Type) where
  /-- The absolute path of the directory. -/
  root : String
  project : Project σ
  host : Host σ
  service : Service σ

namespace Workbench

variable {σ : Type}

/-- The plugin of a workbench with the given settings. -/
def plugin [Traced σ] [OnDisk σ] (settings : Settings) : Plugin σ :=
  .build wordService [.settings settings]

/-- Open the directory at a path. -/
def openAt [Traced σ] [OnDisk σ] (path : String) (settings : Settings) :
    Request σ (Workbench σ) := do
  let disk : Disk ← ExceptT.lift getDisk
  match Path.absolute? disk.workingDirectory path with
  | none => throw (.io .emptyPath)
  | some root =>
    let project : Project σ := directoryProject root .diagnostics
    let files : List String ← ExceptT.lift project.fileNames
    let attachment ← (plugin settings).attach project (diskHost root files) .null
    return ⟨root, project, attachment.host, attachment.service⟩

/-- The foreign files of the project that its host has to track, as they are now. -/
def externalFiles (w : Workbench σ) : StateM σ (List String) :=
  Plugin.externalFiles w.project

end Workbench

end HostOverlay
