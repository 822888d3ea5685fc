import HostOverlay.Disk.Lookup

/-!
# Changing a disk

An **edit** is a computation on a disk that may fail, and whatever it did before it failed is done.
`Disk.write` opens the file that a path leads to, through links, which empties the file, or makes it
when its name is free, and then puts the bytes into it.
-/

set_option autoImplicit false

namespace HostOverlay.Disk

/-- The disk with `new` at a place. -/
def putAt (d : Disk) (place : Place) (new : Node) : Disk :=
  { d with root := Node.put new place d.root }

/-- A computation on a disk that may fail with an `ε`.  What it changed before that stays
changed. -/
abbrev Edit (ε α : Type) : Type := ExceptT ε (StateM Disk) α

/-- Put `new` at a place. -/
def putNode {ε : Type} (place : Place) (new : Node) : Edit ε Unit :=
  modify fun d => d.putAt place new

/-- Open the file at `path` to write to it: a file that is there is emptied, and one whose name is
free is made.  The result is the place of the file. -/
def openToWrite (path : String) : Edit IoError Place := do
  let d : Disk ← get
  match d.locate .writing path with
  | .error e => throw e
  | .ok (.entry _ (.dir _)) => throw .isDirectory
  | .ok (.entry _ (.link _)) => throw .notFound
  | .ok (.entry place (.file ..)) =>
    putNode place (.file .empty 0)
    return place
  | .ok (.vacant directory name) =>
    putNode (directory ++ [name]) (.file .empty 0)
    return directory ++ [name]

/-- Write `content` to the file at `path`. -/
def write (path : String) (content : ByteArray) : Edit IoError Unit := do
  let place ← openToWrite path
  putNode place (.file content 0)

/-! ## Setting up a tree -/

/-- Make the directories that the given names lead through, from the directory at a place. -/
def makeDirs : List String → Disk → Place → Disk × Place
  | [], d, place => (d, place)
  | name :: rest, d, place =>
    if Path.isStay name then makeDirs rest d place
    else
      match followLinks d.root .target maxLinks place [name] with
      | .ok (.entry found (.dir _)) => makeDirs rest d found
      | _ => makeDirs rest (d.putAt (place ++ [name]) .emptyDir) (place ++ [name])

/-- Put a node at a path from the working directory, making the directories on the way. -/
def plant (d : Disk) (path : String) (new : Node) : Disk :=
  let names := (Path.segments path).filter fun s => !Path.isStay s
  let (d, place) := makeDirs names.dropLast d (placeOf d.workingDirectory)
  match names.getLast? with
  | none => d
  | some name => d.putAt (place ++ [name]) new

/-- Make a directory at a path from the working directory, with those on the way. -/
def plantDir (d : Disk) (path : String) : Disk :=
  (makeDirs ((Path.segments path).filter fun s => !Path.isStay s) d
    (placeOf d.workingDirectory)).1

/-- Remove what is at a path, with all that is below it. -/
def uproot (d : Disk) (path : String) : Disk :=
  match d.locate .entry path with
  | .ok (.entry place _) => { d with root := Node.remove place d.root }
  | _ => d

end HostOverlay.Disk
