/-!
# Directory trees

A disk is a value: a tree of directories, files and symbolic links, and what a process finds around
it.  A **place** is the list of names that leads from the root to an entry without passing through a
link.  Names and the targets of links are written as `HostOverlay.Path.Spelling` says, since they
need not be texts.

* `Node.get?` is the view of a tree: the entry at a place.
* `Node.put` and `Node.remove` change the entry at one place.
-/

set_option autoImplicit false

namespace HostOverlay

/-- The names that lead from the root of a tree to an entry. -/
abbrev Place := List String

/-- An entry of a directory tree. -/
inductive Node where
  /-- A regular file: its bytes, and when it was last modified, in milliseconds since 1970. -/
  | file (content : ByteArray) (modified : Int)
  /-- A symbolic link, by the path it points at. -/
  | link (target : String)
  /-- A directory, by its named entries. -/
  | dir (entries : List (String × Node))
  deriving Inhabited

namespace Node

/-- The empty directory. -/
def emptyDir : Node := .dir []

/-- Is the entry a directory? -/
def isDir : Node → Bool
  | .dir _ => true
  | _ => false

/-- Is the entry a regular file? -/
def isFile : Node → Bool
  | .file .. => true
  | _ => false

/-- The entry of the given name in a list of entries. -/
def find? (name : String) : List (String × Node) → Option Node
  | [] => none
  | (n, node) :: rest => if n = name then some node else find? name rest

/-- The entry of the given name, when the node is a directory that has it. -/
def child? (name : String) : Node → Option Node
  | .dir entries => find? name entries
  | _ => none

/-- The entry at a place below the node. -/
def get? : Node → Place → Option Node
  | node, [] => some node
  | node, name :: rest =>
    match node.child? name with
    | some child => child.get? rest
    | none => none

/-- Give `name` the entry `node`, in place of the one it has. -/
def setEntry (name : String) (node : Node) : List (String × Node) → List (String × Node)
  | [] => [(name, node)]
  | (n, old) :: rest =>
    if n = name then (name, node) :: rest else (n, old) :: setEntry name node rest

@[simp] theorem find?_setEntry_self (name : String) (node : Node)
    (entries : List (String × Node)) : find? name (setEntry name node entries) = some node := by
  induction entries with
  | nil => simp [setEntry, find?]
  | cons e rest ih =>
    by_cases h : e.1 = name
    · simp [setEntry, find?, h]
    · simp [setEntry, find?, h, ih]

theorem find?_setEntry_of_ne {name other : String} (h : other ≠ name) (node : Node)
    (entries : List (String × Node)) :
    find? other (setEntry name node entries) = find? other entries := by
  induction entries with
  | nil => simp [setEntry, find?, Ne.symm h]
  | cons e rest ih =>
    by_cases he : e.1 = name
    · simp [setEntry, find?, he, Ne.symm h]
    · rw [setEntry, if_neg he, find?, find?, ih]

/-- Put `new` at a place; directories on the way there that are missing are made, and a file or link
on the way is replaced by a directory. -/
def put (new : Node) : Place → Node → Node
  | [], _ => new
  | name :: rest, .dir entries =>
    .dir (setEntry name (put new rest ((find? name entries).getD emptyDir)) entries)
  | name :: rest, _ => .dir [(name, put new rest emptyDir)]

/-- What has been put at a place is there. -/
theorem get?_put_self (new : Node) (place : Place) (node : Node) :
    (put new place node).get? place = some new := by
  induction place generalizing node with
  | nil => simp [put, get?]
  | cons name rest ih => cases node <;> simp [put, get?, child?, find?, ih]

/-- Remove the entry at a place with all that is below it. -/
def remove : Place → Node → Node
  | [], node => node
  | [name], .dir entries => .dir (entries.filter fun e => e.1 ≠ name)
  | name :: rest, .dir entries =>
    match find? name entries with
    | some child => .dir (setEntry name (remove rest child) entries)
    | none => .dir entries
  | _, node => node

end Node

/-- A directory tree, as a process sees it. -/
structure Disk where
  root : Node
  /-- The absolute path of the directory that relative paths start from. -/
  workingDirectory : String
  /-- The file in which the user keeps what git is to leave out everywhere, if there is one.  It is
  no part of the tree. -/
  userExcludes : Option ByteArray := none
  deriving Inhabited

end HostOverlay
