import HostOverlay.Ignore.Scope

/-!
# Walking a directory

`Disk.filesUnder` lists the regular files in and below a directory, by the path of the directory
as it is given and the names below it, as they are written.  Links are not followed, and what ignore
files leave out is passed over, with everything below it; so is every entry that has one of the
names in `skippedNames`.  The starting point itself is never passed over, and may be a link or a
file.  A directory whose path has grown too long cannot be listed, and the walk goes on behind it.
-/

set_option autoImplicit false

namespace HostOverlay.Disk

open Ignore (Frame Scope Complaint)

/-- The names of directories that hold no sources of a project. -/
def skippedNames : List String := ["node_modules", ".git", "target", "dist"]

/-- Is the entry at `path` passed over? -/
def isPassedOver (scope : Scope) (path name : String) (node : Node) : Bool :=
  scope.leavesOut path name node.isDir || skippedNames.contains name

/-- What a walk comes upon. -/
inductive Finding where
  /-- A regular file. -/
  | file (path : String)
  /-- A directory that cannot be listed, since its path is too long. -/
  | unlisted (path : String)
  deriving DecidableEq, Repr, Inhabited

/-- The path of a file that was found. -/
def Finding.file? : Finding → Option String
  | .file path => some path
  | .unlisted _ => none

/-- The path of a directory that could not be listed. -/
def Finding.unlisted? : Finding → Option String
  | .file _ => none
  | .unlisted path => some path

mutual

/-- What is found in and below a node at `path`. -/
def walk (load : String → Frame) (scope : Scope) (path : String) : Node → List Finding
  | .file .. => [.file path]
  | .link _ => []
  | .dir entries =>
    if maxPath < Path.size path then [.unlisted path]
    else walkEntries load (scope.enter path (load path)) path entries

/-- What is found among and below the entries of the directory at `path`, in the scope of these
entries. -/
def walkEntries (load : String → Frame) (scope : Scope) (path : String) :
    List (String × Node) → List Finding
  | [] => []
  | (name, node) :: rest =>
    (if isPassedOver scope (Path.join path name) name node then []
      else walk load scope (Path.join path name) node)
      ++ walkEntries load scope path rest

end

/-- What a walk has found. -/
structure Listing where
  files : List String := []
  /-- The directories that could not be listed. -/
  unlisted : List String := []
  /-- What is wrong with the ignore files above the directory. -/
  complaints : List Complaint := []
  deriving Inhabited

/-- Is `root` the name of the standard input rather than a path? -/
def isStandardInput (root : String) : Bool :=
  Path.components root = [.name "-"]

/-- The files in and below what `root` leads to. -/
def filesUnder (d : Disk) (root : String) : Except IoError Listing :=
  if isStandardInput root then .ok {}
  else do
    let (place, node) ← d.lookup root
    let scope := Scope.around d root place
    let found := walk (Frame.load d) scope root node
    .ok { files := found.filterMap Finding.file?
          unlisted := found.filterMap Finding.unlisted?
          complaints := if node.isDir then scope.complaints else [] }

end HostOverlay.Disk
