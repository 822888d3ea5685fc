import HostOverlay.Cli.Run

/-!
# The program

Copies the part of the machine's file system that a command line is about into a `Disk`, runs the
command line on it, prints what the command has printed, and writes back the files it has changed.

The copied part is the working directory, every directory that an argument names or that holds
what an argument names, and the ignore files above these.
-/

set_option autoImplicit false

namespace HostOverlay.Cli

/-- A time in milliseconds since 1970. -/
def milliseconds (t : IO.FS.SystemTime) : Int :=
  t.sec * 1000 + t.nsec.toNat / 1000000

/-- Copy the entry `name` of a directory, with all that is below it.  A link is copied as a link to
the place it leads to in the end, and not at all when it leads nowhere. -/
partial def copyEntry (directory name : String) : IO (Option Node) := do
  let path := (IO.FS.DirEntry.mk directory name).path
  try
    let data ← path.symlinkMetadata
    match data.type with
    | .file => return some (.file (← IO.FS.readBinFile path) (milliseconds data.modified))
    | .symlink => return some (.link (← IO.FS.realPath path).toString)
    | .other => return none
    | .dir =>
      let mut entries : List (String × Node) := []
      for entry in ← path.readDir do
        if let some node ← copyEntry path.toString entry.fileName then
          entries := (entry.fileName, node) :: entries
      return some (.dir entries)
  catch _ => return none

/-- Copy the entry at a place, with all that is below it. -/
def copyPlace (root : Node) (place : Place) : IO Node := do
  match place.getLast? with
  | none => return root
  | some name =>
    match ← copyEntry (Ignore.pathOf place.dropLast) name with
    | some node => return Node.put node place root
    | none => return root

/-- The entries of a directory that say what is left out below it. -/
def ignoreEntries : List String := [".ignore", ".gitignore", ".jj"]

/-- Copy the part of a repository in the directory at a place that says what is left out below it:
its exclude file, or the file that names the repository. -/
def copyRepository (root : Node) (place : Place) : IO Node := do
  let git := place ++ [".git"]
  if ← (IO.FS.DirEntry.mk (Ignore.pathOf place) ".git").path.isDir then
    copyPlace (Node.put .emptyDir git root) (git ++ ["info"])
  else copyPlace root git

/-- Copy a directory, and what is left out of it from above. -/
def copyDirectory (root : Node) (place : Place) : IO Node := do
  if place.isEmpty then return root
  let mut root := root
  for n in List.range place.length do
    for entry in ignoreEntries do
      root ← copyPlace root (place.take n ++ [entry])
    root ← copyRepository root (place.take n)
  copyPlace root place

/-- Copy the file of the user's excludes from the place where git looks for it by itself. -/
def copyUserExcludes : IO (Option ByteArray) := do
  let chosen ← IO.getEnv "XDG_CONFIG_HOME"
  let home ← IO.getEnv "HOME"
  match (chosen.filter (· ≠ "")).or (home.map fun home => Path.join home ".config") with
  | none => return none
  | some directory =>
    try return some (← IO.FS.readBinFile (Path.join directory "git/ignore"))
    catch _ => return none

/-- Copy what the given paths are about. -/
def copyDisk (paths : List String) : IO Disk := do
  let workingDirectory := (← IO.currentDir).toString
  let mut root := Node.emptyDir
  for path in "." :: paths do
    let place := Disk.placeOf (Path.resolve workingDirectory path)
    let isDirectory ← (IO.FS.DirEntry.mk workingDirectory path).path.isDir
    root ← copyDirectory root (if isDirectory then place else place.dropLast)
  return { root, workingDirectory, userExcludes := ← copyUserExcludes }

/-- Write the files at the given paths that differ between two disks. -/
def writeChanges (before after : Disk) (paths : List String) : IO Unit := do
  for path in paths do
    if let .ok content := after.read path then
      match before.read path with
      | .ok old => if old != content then IO.FS.writeBinFile path content
      | .error _ => IO.FS.writeBinFile path content

/-- What a notice looks like on the error stream. -/
def Notice.text : Notice → String
  | .diagnostic d => d.shown
  | .line text => text

end HostOverlay.Cli

open HostOverlay Cli in
/-- Run a command line on the machine. -/
def main (arguments : List String) : IO UInt32 := do
  let paths := Settings.defaultPath :: arguments.filter (· ≠ "")
  let disk ← copyDisk paths
  let isTerminal ← (← IO.getStdout).isTty
  let console : Console :=
    { disk
      quiet := isQuiet (← IO.getEnv "TZEN_QUIET")
      theme := if isTerminal then .colored else .plain }
  let (code, after) := run arguments console
  for line in after.out do IO.println line
  for notice in after.err do IO.eprintln notice.text
  writeChanges disk after.disk paths
  return code.toUInt32
