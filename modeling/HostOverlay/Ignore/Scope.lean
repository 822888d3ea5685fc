import HostOverlay.Ignore.File

/-!
# Which ignore files apply to an entry

Every directory from the one that holds an entry up to the root of the tree may have ignore files.

* `.ignore` files count everywhere, the nearest that says something first.
* `.gitignore` and the exclude file of a repository count only inside a repository, and not beyond
  the directory that holds it.
* An `.ignore` file outranks a `.gitignore`, which outranks an exclude file.  Last come the excludes
  of the user, which count in every repository.
* A name that begins with a dot is left out unless some rule keeps it in.

Rules see an entry by its path below the directory of their file.  That path is found by taking the
directory's path off the front of the entry's path, as both are written: see `below`.
-/

set_option autoImplicit false

namespace HostOverlay.Ignore

/-! ## The files of a directory -/

/-- The ignore files of one directory. -/
structure Frame where
  /-- The rules of `.ignore`. -/
  ignore : List Rule
  /-- The rules of `.gitignore`. -/
  gitignore : List Rule
  /-- The rules of the exclude file of the repository that the directory holds. -/
  exclude : List Rule
  /-- Does the directory hold a repository? -/
  hasRepository : Bool
  /-- What is wrong with the files. -/
  complaints : List Complaint
  deriving Inhabited

/-- The first line of the file at a written path, or the complaints about it.  A line with a NUL in
it names nothing. -/
def firstLine (d : Disk) (path : String) : Except (List Complaint) String :=
  match d.fetch path with
  | .ok content =>
    match textLines content with
    | [] => .error []
    | none :: _ => .error [.unreadable path .invalidText]
    | some line :: _ => if line.contains '\x00' then .error [] else .ok (String.ofList line)
  | .error .isDirectory => .error [.unreadable path .isDirectory]
  | .error _ => .error []

/-- What follows `word` at the start of a text. -/
def after? (word s : String) : Option String :=
  if word.toList.isPrefixOf s.toList then some (String.ofList (s.toList.drop word.toList.length))
  else none

/-- The directory with the shared files of the repository that `dir` holds, or the complaints about
the files that should name it.  `.git` is that directory, unless it is a file that names another
one, which names the shared one in turn. -/
def sharedDirectory (d : Disk) (dir : String) : Except (List Complaint) String := do
  let git := Path.join dir ".git"
  if !d.reachesFile git then .ok git
  else
    match after? "gitdir: " (← firstLine d git) with
    | none => .error []
    | some named =>
      let shared ← firstLine d (Path.join named "commondir")
      if ['.'].isPrefixOf shared.toList then .ok (Path.join named shared) else .ok shared

/-- The ignore files of the directory at `dir`. -/
def Frame.load (d : Disk) (dir : String) : Frame :=
  let ignorePath := Path.join dir ".ignore"
  let gitignorePath := Path.join dir ".gitignore"
  let ignore := File.load d ignorePath
  let gitignore := File.load d gitignorePath
  let (exclude, excludeComplaints) : File × List Complaint :=
    match sharedDirectory d dir with
    | .ok shared =>
      let path := Path.join shared "info/exclude"
      (File.load d path, (File.load d path).complaints path)
    | .error complaints => ({}, complaints)
  { ignore := ignore.rules
    gitignore := gitignore.rules
    exclude := exclude.rules
    hasRepository :=
      d.reaches (Path.join dir ".git") || d.reaches (Path.join dir ".jj")
    complaints :=
      ignore.complaints ignorePath ++ gitignore.complaints gitignorePath ++ excludeComplaints }

/-! ## Paths as rules see them -/

/-- A path without one `./` in front of it. -/
def dropHere (path : String) : String := (after? "./" path).getD path

/-- A path without one `/` in front of it. -/
def dropSlash (path : String) : String := (after? "/" path).getD path

/-- Is it a path that goes nowhere from where it starts? -/
def isHere (path : String) : Bool := Path.components path = [.current]

/-- The path of an entry below the directory at `dir`, both as they are written.  A path that does
not begin with the directory's is left as it is. -/
def below (dir path : String) : String :=
  let path := dropHere path
  let dir := dropHere dir
  if isHere dir || !path.toList.contains '/' then path
  else
    match after? dir path with
    | some rest => dropSlash rest
    | none => path

/-! ## Scopes -/

/-- A directory around an entry: its path as it is written, and its ignore files. -/
structure Level where
  dir : String
  frame : Frame
  deriving Inhabited

/-- The directories around the entries of a directory. -/
structure Scope where
  /-- The path that the walk has started from. -/
  start : String
  /-- The absolute path of that, without links. -/
  base : String
  /-- The directories from the one that holds the entry up to the start, nearest first. -/
  inner : List Level
  /-- The directories above the start, nearest first, by their absolute paths. -/
  outer : List Level
  /-- The excludes of the user. -/
  userRules : List Rule
  /-- The directory that these are bound to: the one that relative paths start from. -/
  userDir : String
  deriving Inhabited

namespace Scope

/-- The scope of the entries of a directory in the scope. -/
def enter (s : Scope) (dir : String) (frame : Frame) : Scope :=
  { s with inner := ⟨dir, frame⟩ :: s.inner }

/-- The absolute path of the entry at `path`. -/
def absolute (s : Scope) (path : String) : String :=
  Path.join s.base
    (if isHere s.start then path
      else dropSlash ((after? (dropHere s.start) path).getD path))

/-- The ignore files around the entry at `path`, nearest first, with the path that the rules of each
directory see. -/
def views (s : Scope) (path : String) : List (Frame × String) :=
  let path := dropHere path
  s.inner.map (fun l => (l.frame, below l.dir path))
    ++ s.outer.map fun l => (l.frame, below l.dir (s.absolute path))

/-- What the excludes of the user say of the entry at `path`. -/
def userVerdict (s : Scope) (path : String) (isDir : Bool) : Verdict :=
  verdict s.userRules (below s.userDir (dropHere path)) isDir

end Scope

/-! ## Judging an entry -/

/-- What the nearest `.ignore` file that speaks of an entry says. -/
def ignoreVerdict (isDir : Bool) : List (Frame × String) → Verdict
  | [] => .silent
  | (frame, path) :: rest => (verdict frame.ignore path isDir).or (ignoreVerdict isDir rest)

/-- What the nearest rules of a repository that speak of an entry say, up to the directory that
holds the repository. -/
def repositoryVerdict (select : Frame → List Rule) (isDir : Bool) :
    List (Frame × String) → Verdict
  | [] => .silent
  | (frame, path) :: rest =>
    (verdict (select frame) path isDir).or
      (if frame.hasRepository then .silent else repositoryVerdict select isDir rest)

/-- What all ignore files together say of an entry, of which the excludes of the user say `user`. -/
def judge (views : List (Frame × String)) (user : Verdict) (isDir : Bool) : Verdict :=
  let repository :=
    if views.any fun (frame, _) => frame.hasRepository then
      (repositoryVerdict Frame.gitignore isDir views).or
        ((repositoryVerdict Frame.exclude isDir views).or user)
    else .silent
  (ignoreVerdict isDir views).or repository

/-- Does the name begin with a dot? -/
def isHidden (name : String) : Bool :=
  ['.'].isPrefixOf name.toList

/-- Is the entry at `path`, of the given name, left out? -/
def Scope.leavesOut (s : Scope) (path name : String) (isDir : Bool) : Bool :=
  match judge (s.views path) (s.userVerdict path isDir) isDir with
  | .leaveOut => true
  | .keep => false
  | .silent => isHidden name

/-! ## Above the start of a walk -/

/-- The absolute path of a place. -/
def pathOf (place : Place) : String := "/" ++ Path.joinSegments place

/-- The levels above the directory at a place, the nearest first. -/
def levelsAbove (d : Disk) (place : Place) : List Level :=
  (List.range place.length).reverse.map fun n =>
    let dir := pathOf (place.take n)
    ⟨dir, Frame.load d dir⟩

/-- The excludes of the user. -/
def userRules (d : Disk) : List Rule :=
  match d.userExcludes with
  | some content => (File.ofContent content).rules
  | none => []

/-- The scope of a walk that starts at `start`, which leads to a place. -/
def Scope.around (d : Disk) (start : String) (place : Place) : Scope where
  start
  base := pathOf place
  inner := []
  outer := levelsAbove d place
  userRules := Ignore.userRules d
  userDir := d.workingDirectory

/-- The complaints about the ignore files above the start of a walk, from the root on down. -/
def Scope.complaints (s : Scope) : List Complaint :=
  s.outer.reverse.flatMap fun l => l.frame.complaints

end HostOverlay.Ignore
