import HostOverlay.Host.Basic
import HostOverlay.Settings.File
import HostOverlay.Text.Style

/-!
# The console

The world that a command runs in: a disk, what has been printed so far, and what has gone to the
error stream.  Diagnostics go to the error stream as well; those of the lowest severity only if
that is asked for.  Decoration is left out when the console is quiet.

A `Program` is a computation on a console that may fail; whatever it printed before that stays.
-/

set_option autoImplicit false

namespace HostOverlay.Cli

/-- Something on the error stream. -/
inductive Notice where
  | diagnostic (d : Diagnostic)
  | line (text : String)
  deriving DecidableEq, Repr, Inhabited

/-- The world of a command. -/
structure Console where
  disk : Disk
  /-- Are diagnostics of the lowest severity shown? -/
  verbose : Bool := false
  /-- Is decoration left out? -/
  quiet : Bool := false
  theme : Text.Theme := .plain
  /-- The lines printed so far. -/
  out : List String := []
  /-- What has gone to the error stream so far. -/
  err : List Notice := []
  deriving Inhabited

instance : OnDisk Console where
  disk c := c.disk

instance : Traced Console where
  emit d c :=
    if d.severity = .debug && !c.verbose then c else { c with err := c.err ++ [.diagnostic d] }

/-- Does the value of the environment variable for it make the console quiet? -/
def isQuiet (value : Option String) : Bool :=
  match value with
  | some v => v = "1" || v.toList.map Char.toLower = "true".toList
  | none => false

/-! ## Failing -/

/-- Why a command fails. -/
inductive Failure where
  | request (cause : Error)
  | settings (cause : Settings.FileError)
  | io (cause : IoError)
  deriving DecidableEq, Repr, Inhabited

/-- The lines about a failure: its wording, and that of the failure behind it. -/
def Failure.lines : Failure → List String
  | .request cause =>
    ("Error: " ++ cause.message) ::
      (match cause.source? with
        | some source => ["", "Caused by:", "    " ++ source]
        | none => [])
  | .settings cause => ["Error: " ++ cause.message]
  | .io cause => ["Error: " ++ cause.message]

/-- A computation on a console that may fail. -/
abbrev Program (α : Type) := ExceptT Failure (StateM Console) α

/-- Make a request. -/
def ask {α : Type} (request : Request Console α) : Program α :=
  ExceptT.adapt Failure.request request

/-- Edit the disk, in a way that may fail as settings files do. -/
def edit {α : Type} (change : Disk.Edit Settings.FileError α) : Program α := do
  let c : Console ← get
  let (answer, disk) := change.run c.disk
  set { c with disk }
  match answer with
  | .ok a => return a
  | .error cause => throw (.settings cause)

/-! ## Printing -/

/-- Print a line. -/
def print (line : String) : StateM Console Unit :=
  modify fun c => { c with out := c.out ++ [line] }

/-- Put a line on the error stream. -/
def printError (line : String) : StateM Console Unit :=
  modify fun c => { c with err := c.err ++ [.line line] }

/-- Do something unless the console is quiet. -/
def unlessQuiet (action : StateM Console Unit) : StateM Console Unit := do
  if (← get).quiet then pure () else action

/-- A text in the style that the theme has for it. -/
def styled (part : Text.Theme → Text.Style) (text : String) : StateM Console String :=
  return (part (← get).theme).apply text

/-- The title of the output. -/
def printHeader (text : String) : StateM Console Unit :=
  unlessQuiet do print ("🌉 " ++ (← styled (·.header) text))

/-- The title of a part of the output. -/
def printSection (title : String) : StateM Console Unit :=
  unlessQuiet do
    print ""
    print ("━" ++ (← styled (·.header) title) ++ "━")

/-- The news that something is done. -/
def printSuccess (text : String) : StateM Console Unit := do
  print ("✅ " ++ (← styled (·.success) text))

/-- A warning, on the error stream. -/
def printWarning (text : String) : StateM Console Unit := do
  printError ("⚠️ " ++ (← styled (·.warn) text))

/-- A labelled value. -/
def printInfo (label value : String) : StateM Console Unit := do
  print ("ℹ️ " ++ (← styled (·.label) label) ++ ": " ++ value)

/-- The path of a file. -/
def printFile (path : String) : StateM Console Unit := do
  print ("📄 " ++ (← styled (·.path) path))

/-- A labelled value at the end of the output. -/
def printSummary (label value : String) : StateM Console Unit :=
  unlessQuiet do print ("  " ++ (← styled (·.label) label) ++ " " ++ value)

end HostOverlay.Cli
