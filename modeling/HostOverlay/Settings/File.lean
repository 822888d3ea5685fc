import HostOverlay.Disk.Edit
import HostOverlay.Settings
import HostOverlay.Toml.Parse

/-!
# The settings file

Settings are kept in a TOML file, each under its own name at the top of the document; whatever
else the document says is skipped.  `Settings.ofToml?` reads the text of such a file,
`Settings.toToml` writes it, and `Settings.load` and `Settings.save` do the same on a disk.  A
file that is not there is no failure to load, and a file that is there is not replaced unless that
is asked for.
-/

set_option autoImplicit false

namespace HostOverlay.Settings

/-- Why a settings file cannot be read or written. -/
inductive FileError where
  | io (cause : IoError)
  /-- The text is no TOML, or a setting is no text. -/
  | malformed
  /-- There is something at the path already. -/
  | taken (path : String)
  deriving DecidableEq, Repr, Inhabited

/-- The wording of a failure. -/
def FileError.message : FileError → String
  | .io cause => cause.message
  | .malformed => "TOML parse error"
  | .taken path => "config already exists at " ++ path ++ " (use --force to overwrite)"

/-- Where the settings file is when nobody says otherwise. -/
def defaultPath : String := "tzen.toml"

/-! ## Text -/

/-- The setting with the given name; `fallback` when the document does not have it, and `none`
when it is no text. -/
def textOr? (key fallback : String) (entries : Toml.Entries) : Option String :=
  match entries.get? key with
  | none => some fallback
  | some (.text s) => some s
  | some _ => none

/-- The settings in the text of a file. -/
def ofToml? (text : String) : Option Settings := do
  let entries ← Toml.parse? text
  let defaults : Settings := {}
  let definitionFile ← textOr? definitionKey defaults.definitionFile entries
  let placeholderSource ← textOr? placeholderKey defaults.placeholderSource entries
  return { definitionFile, placeholderSource }

/-- One setting on a line of its own. -/
def assignment (key value : String) : String :=
  key ++ " = " ++ Toml.writeText value ++ "\n"

/-- The text of a file with the given settings. -/
def toToml (s : Settings) : String :=
  assignment definitionKey s.definitionFile ++ assignment placeholderKey s.placeholderSource

/-! ## Files -/

/-- The settings in the file at a path, `none` when nothing is there. -/
def load (path : String) : Disk.Edit FileError (Option Settings) := do
  let d : Disk ← get
  if d.leadsSomewhere path then
    match d.readText path with
    | .error cause => throw (.io cause)
    | .ok text =>
      match ofToml? text with
      | some s => return some s
      | none => throw .malformed
  else return none

/-- Write settings to the file at a path.  What is there already stays unless `force` is set. -/
def save (path : String) (s : Settings) (force : Bool) : Disk.Edit FileError Unit := do
  let d : Disk ← get
  if d.leadsSomewhere path && !force then throw (.taken path)
  else ExceptT.adapt FileError.io (Disk.write path s.toToml.toUTF8)

end HostOverlay.Settings
