import HostOverlay.Disk.Basic
import HostOverlay.Path.Spelling

/-!
# Following a path

`Disk.route` follows a path through a tree, one segment at a time, from the root or from the
working directory.  Links are followed, forty at most.  It ends at a **landing**: an entry that is
there, or a free name in a directory.  Everything else is an `IoError`.

A path that a program is given is a text.  `Disk.locate` follows it as it stands, unless it has a
NUL in it, which nothing on a disk is called by.  The observers of a disk are defined through it:
`metadata`, `present`, `isFile`, `read`, `readText`.  A path that was put together from names on
the disk can have escaped bytes in it; for such paths there are `seek` and `fetch`.
-/

set_option autoImplicit false

namespace HostOverlay

/-- Why an operation on a disk fails. -/
inductive IoError where
  | notFound
  | notDirectory
  | isDirectory
  | nameTooLong
  | tooManyLinks
  | nulInPath
  | invalidText
  | emptyPath
  /-- A cause known by its wording only. -/
  | other (text : String)
  deriving DecidableEq, Repr, Inhabited

/-- The wording of a failure. -/
def IoError.message : IoError → String
  | .notFound => "No such file or directory (os error 2)"
  | .notDirectory => "Not a directory (os error 20)"
  | .isDirectory => "Is a directory (os error 21)"
  | .nameTooLong => "File name too long (os error 36)"
  | .tooManyLinks => "Too many levels of symbolic links (os error 40)"
  | .nulInPath => "file name contained an unexpected NUL byte"
  | .invalidText => "stream did not contain valid UTF-8"
  | .emptyPath => "cannot make an empty path absolute"
  | .other text => text

namespace Disk

/-- The longest name of an entry, in bytes. -/
def maxName : Nat := 255

/-- The longest path, in bytes. -/
def maxPath : Nat := 4095

/-- The number of links that are followed before a path is given up. -/
def maxLinks : Nat := 40

/-- What a path is followed for. -/
inductive Purpose where
  /-- For what it leads to, through links. -/
  | target
  /-- For the entry at its end, which may be a link. -/
  | entry
  /-- For the file to write to, through links. -/
  | writing
  deriving DecidableEq, Repr, Inhabited

/-- Where a path leads. -/
inductive Landing where
  /-- To the entry at a place. -/
  | entry (place : Place) (node : Node)
  /-- To a name that the directory at a place does not have. -/
  | vacant (directory : Place) (name : String)
  deriving Inhabited

/-- Where the target of a link starts: at the root, or in the directory that holds the link. -/
def linkStart (directory : Place) (target : String) : Place :=
  if Path.isAbsolute target then [] else directory

/-- Is nothing left of a path but slashes? -/
def onlySlashes (rest : List String) : Bool := !rest.isEmpty && rest.all (· = "")

/-- Follow segments from the directory or file at `place`.  When a link is met, `onLink` goes on
from the place and with the segments that the link leads to; a link that is the last segment is
not followed if the entry itself is asked for.  A name with a slash behind it can only be a
directory, so that there is no file of that name to write to. -/
def follow (root : Node) (purpose : Purpose)
    (onLink : Place → List String → Except IoError Landing) :
    Place → List String → Except IoError Landing
  | place, [] =>
    match root.get? place with
    | some node => .ok (.entry place node)
    | none => .error .notFound
  | place, s :: rest =>
    match root.get? place with
    | none => .error .notFound
    | some (.dir entries) =>
      if Path.isStay s then follow root purpose onLink place rest
      else if s = ".." then follow root purpose onLink place.dropLast rest
      else if purpose = .writing && onlySlashes rest then .error .isDirectory
      else if maxName < Path.size s then .error .nameTooLong
      else
        match Node.find? s entries with
        | none => if rest.all (· = "") then .ok (.vacant place s) else .error .notFound
        | some (.link target) =>
          if rest.isEmpty && purpose = .entry then .ok (.entry (place ++ [s]) (.link target))
          else onLink (linkStart place target) (Path.segments target ++ rest)
        | some _ => follow root purpose onLink (place ++ [s]) rest
    | some _ => .error .notDirectory

/-- Follow segments, with at most `n` links on the way. -/
def followLinks (root : Node) (purpose : Purpose) :
    Nat → Place → List String → Except IoError Landing
  | 0 => follow root purpose fun _ _ => .error .tooManyLinks
  | n + 1 => follow root purpose (followLinks root purpose n)

/-- The names in an absolute path that has no `..`. -/
def placeOf (path : String) : Place :=
  (Path.segments path).filter fun s => !Path.isStay s

/-- Follow a written path from where it starts. -/
def route (d : Disk) (purpose : Purpose) (path : String) : Except IoError Landing :=
  if path = "" then .error .notFound
  else if maxPath < Path.size path then .error .nameTooLong
  else
    let start := if Path.isAbsolute path then [] else placeOf d.workingDirectory
    followLinks d.root purpose maxLinks start (Path.segments path)

/-- Follow a path that is a text. -/
def locate (d : Disk) (purpose : Purpose) (path : String) : Except IoError Landing :=
  if path.toList.contains '\x00' then .error .nulInPath else d.route purpose path

/-- The entry that a landing has reached. -/
def Landing.reached : Landing → Except IoError (Place × Node)
  | .entry place node => .ok (place, node)
  | .vacant .. => .error .notFound

/-- The entry that a written path leads to, through links. -/
def seek (d : Disk) (path : String) : Except IoError (Place × Node) := do
  (← d.route .target path).reached

/-- The entry that a path leads to, through links. -/
def lookup (d : Disk) (path : String) : Except IoError (Place × Node) := do
  (← d.locate .target path).reached

/-! ## Observers -/

/-- Does the path lead to something?  "Nothing there" is an answer, everything else that keeps the
path from being followed is a failure. -/
def present (d : Disk) (path : String) : Except IoError Bool :=
  match d.lookup path with
  | .ok _ => .ok true
  | .error .notFound => .ok false
  | .error e => .error e

/-- Can the path be followed to something? -/
def leadsSomewhere (d : Disk) (path : String) : Bool :=
  (d.lookup path).isOk

/-- Does the path lead to a regular file? -/
def isFile (d : Disk) (path : String) : Bool :=
  match d.lookup path with
  | .ok (_, node) => node.isFile
  | .error _ => false

/-- Does the path lead to a directory? -/
def isDir (d : Disk) (path : String) : Bool :=
  match d.lookup path with
  | .ok (_, node) => node.isDir
  | .error _ => false

/-- The bytes of an entry that was found. -/
def contentOf : Place × Node → Except IoError ByteArray
  | (_, .file content _) => .ok content
  | (_, .dir _) => .error .isDirectory
  | (_, .link _) => .error .notFound

/-- The bytes of the file that a path leads to. -/
def read (d : Disk) (path : String) : Except IoError ByteArray := do
  contentOf (← d.lookup path)

/-- The text of the file that a path leads to. -/
def readText (d : Disk) (path : String) : Except IoError String := do
  match String.fromUTF8? (← d.read path) with
  | some text => .ok text
  | none => .error .invalidText

/-- The size of a directory as it is reported. -/
def directorySize : Nat := 4096

/-- The size and the time of the last modification of what a path leads to. -/
def metadata (d : Disk) (path : String) : Except IoError (Nat × Int) := do
  match ← d.lookup path with
  | (_, .file content modified) => .ok (content.size, modified)
  | (_, _) => .ok (directorySize, 0)

/-! ## Written paths -/

/-- Does a written path lead to something? -/
def reaches (d : Disk) (path : String) : Bool :=
  (d.seek path).isOk

/-- Does a written path lead to a regular file? -/
def reachesFile (d : Disk) (path : String) : Bool :=
  match d.seek path with
  | .ok (_, node) => node.isFile
  | .error _ => false

/-- The bytes of the file that a written path leads to. -/
def fetch (d : Disk) (path : String) : Except IoError ByteArray := do
  contentOf (← d.seek path)

end Disk

end HostOverlay
