import HostOverlay.Disk.Lookup
import HostOverlay.Json.Decode
import HostOverlay.Script.Snapshot
import HostOverlay.Script.Resolution
import HostOverlay.Script.Definition
import HostOverlay.Text.Quoted

/-!
# Hosts and services

A **host** tells a language service what it knows about a project: which files there are, what is in
them, how their imports resolve.  A **service** answers questions about the program that those files
make up.  Both may keep state and both may fail, so an answer is a `Request`: a computation over a
world of some type `σ` that either fails with an `Error` or gives a value, and leaves a world behind
in either case.

The layer of this library takes a host and a service and gives back ones of the same type.
-/

set_option autoImplicit false

namespace HostOverlay

/-- Why a request fails. -/
inductive Error where
  /-- Storage could not be read. -/
  | io (cause : IoError)
  /-- The host refused. -/
  | host (text : String)
  /-- The host answered a batch with the wrong number of resolutions. -/
  | resolutionMismatch (cause : LengthMismatch)
  /-- A project's configuration could not be read. -/
  | config (cause : DecodeError)
  deriving DecidableEq, Repr, Inhabited

/-- The wording of a failure. -/
def Error.message : Error → String
  | .io cause => "IO error: " ++ cause.message
  | .host text => "Host error: " ++ text
  | .resolutionMismatch cause =>
    "Host resolved " ++ toString cause.actual ++ " module names for a batch of "
      ++ toString cause.expected
  | .config cause => "Config error: " ++ cause.message

/-- The failure behind a failure, when there is one of its own. -/
def Error.source? : Error → Option String
  | .io cause => some cause.message
  | _ => none

/-- A computation over a world of type `σ` that may fail. -/
abbrev Request (σ α : Type) := ExceptT Error (StateM σ) α

/-! ## Diagnostics -/

/-- How much a diagnostic matters. -/
inductive Severity where
  | debug
  | info
  | warn
  deriving DecidableEq, Repr, Inhabited

/-- A line about what is going on, for whoever runs the program. -/
structure Diagnostic where
  severity : Severity
  /-- The part of the program that speaks. -/
  origin : String
  text : String
  deriving DecidableEq, Repr, Inhabited

/-- The name of a severity. -/
def Severity.name : Severity → String
  | .debug => "DEBUG"
  | .info => "INFO"
  | .warn => "WARN"

/-- A character as it is shown in a diagnostic.  Those that a terminal would obey rather than show
are given by their code points; line ends and tabs are left as they are. -/
def Diagnostic.shownChar (c : Char) : List Char :=
  match c with
  | '\x07' => ['\\', 'x', '0', '7']
  | '\x08' => ['\\', 'x', '0', '8']
  | '\x0c' => ['\\', 'x', '0', 'c']
  | '\x1b' => ['\\', 'x', '1', 'b']
  | '\x7f' => ['\\', 'x', '7', 'f']
  | c => if 0x80 ≤ c.toNat && c.toNat ≤ 0x9f then Text.codePointEscape c else [c]

/-- A diagnostic as it is shown. -/
def Diagnostic.shown (d : Diagnostic) : String :=
  d.severity.name ++ " " ++ d.origin ++ ": "
    ++ String.ofList (d.text.toList.flatMap Diagnostic.shownChar)

/-- Worlds that take diagnostics. -/
class Traced (σ : Type) where
  emit : Diagnostic → σ → σ

/-- Worlds with a disk. -/
class OnDisk (σ : Type) where
  disk : σ → Disk

section

variable {σ : Type}

/-- Write a diagnostic. -/
def trace [Traced σ] (severity : Severity) (origin text : String) : StateM σ Unit :=
  modify (Traced.emit ⟨severity, origin, text⟩)

/-- Write a diagnostic while answering a request. -/
def Request.trace [Traced σ] (severity : Severity) (origin text : String) : Request σ Unit :=
  ExceptT.lift (HostOverlay.trace severity origin text)

/-- The disk as it is now. -/
def getDisk [OnDisk σ] : StateM σ Disk := do
  return OnDisk.disk (← get)

/-- A request that fails when storage does. -/
def Request.ofIo {α : Type} : Except IoError α → Request σ α
  | .ok a => pure a
  | .error e => throw (.io e)

end

/-! ## The parties -/

/-- What a language service asks about a project. -/
structure Host (σ : Type) where
  /-- The directory that relative paths start from. -/
  currentDirectory : StateM σ String
  /-- The files that the project consists of. -/
  scriptFileNames : StateM σ (List String)
  /-- A text that changes whenever the content of the file does. -/
  scriptVersion : String → StateM σ String
  /-- The grammar to parse a file by. -/
  scriptKind : String → StateM σ ScriptKind
  /-- The content of a file, `none` when the host has none. -/
  scriptSnapshot : String → Request σ (Option Snapshot)
  /-- The resolutions of the specifiers in a file, one for each, in their order. -/
  resolveModuleNames : List Specifier → String → ResolutionOptions → Request σ (List Resolution)
  /-- Is there such a file? -/
  fileExists : String → StateM σ Bool
  /-- The content of a file that need not be a script. -/
  fileContent : String → Request σ (Option String)

/-- What an editor asks about a program. -/
structure Service (σ : Type) where
  /-- The definitions of the symbol at a position in a file. -/
  definition : String → Nat → Request σ (Option DefinitionAnswer)
  /-- What to show for the symbol at a position in a file. -/
  quickInfo : String → Nat → Request σ (Option QuickInfo)
  /-- The files that the program consists of. -/
  programFileNames : Request σ (List String)

/-- A way to build a service over a host. -/
abbrev ServiceFactory (σ : Type) := Host σ → Service σ

/-- Where the lines of a project's log go. -/
abbrev Logger (σ : Type) := String → StateM σ Unit

/-- A project as its host sees it. -/
structure Project (σ : Type) where
  /-- The path of the file that defines the project. -/
  name : String
  /-- All files of the project, as they are now. -/
  fileNames : StateM σ (List String)
  logger : Logger σ

/-- A view of the storage that the files of a host lie on. -/
structure Storage (σ : Type) where
  /-- Is there something at a path? -/
  present : String → StateM σ (Except IoError Bool)

/-- Storage that is the disk of the world. -/
def Storage.onDisk {σ : Type} [OnDisk σ] : Storage σ where
  present path := return (← getDisk).present path

/-- The logger that writes diagnostics. -/
def Logger.diagnostics {σ : Type} [Traced σ] : Logger σ :=
  trace .info "tzen_bridge::host::traits"

end HostOverlay
