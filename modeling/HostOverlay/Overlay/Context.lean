import HostOverlay.Host.Basic
import HostOverlay.Path.Normal
import HostOverlay.Text.Quoted

/-!
# The context of a project

When the layer attaches to a project it learns two things that never change afterwards: the root
directory of the project, which is the directory of the file that defines it, and the project's log.
-/

set_option autoImplicit false

namespace HostOverlay

/-- What the layer knows about the project it is attached to. -/
structure Context (σ : Type) where
  root : String
  logger : Logger σ

namespace Context

/-- The directory of the file that defines a project; a bare name lies in the current directory. -/
def rootPath (projectName : String) : String :=
  match Path.parent? projectName with
  | some parent => if parent = "" then "." else parent
  | none => "."

/-- The root directory of a project, made absolute against the working directory. -/
def rootOf (workingDirectory projectName : String) : Except IoError String :=
  match Path.absolute? workingDirectory (rootPath projectName) with
  | some root => .ok root
  | none => .error .emptyPath

/-- A context as it is shown in diagnostics. -/
def shown {σ : Type} (c : Context σ) : String :=
  "ProjectContext \x7b root: " ++ Text.quoted c.root ++ ", .. \x7d"

end Context

end HostOverlay
