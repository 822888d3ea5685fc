import HostOverlay.Cli.Arguments
import HostOverlay.Cli.Console
import HostOverlay.Json.Render
import HostOverlay.Script.Wire
import HostOverlay.Workbench.Basic
import HostOverlay.Workbench.Report

/-!
# Running commands

Every command but the one that writes settings first reads them, then opens the project, and then
prints what the host or the service of the workbench answers, as JSON or for people.
-/

set_option autoImplicit false

namespace HostOverlay.Cli

/-- Settings as they are shown in diagnostics. -/
def shownSettings (s : Settings) : String :=
  "TzenConfig \x7b definition_file: " ++ Text.quoted s.definitionFile ++ ", placeholder_source: "
    ++ Text.quoted s.placeholderSource ++ " \x7d"

/-- The settings in the file at `path`, or in the one that is used when nobody says otherwise. -/
def readSettings (path : Option String) : Program Settings := do
  let found ← edit (Settings.load (path.getD Settings.defaultPath))
  let settings := found.getD {}
  ExceptT.lift (trace .debug "tzen_bridge" ("Using config " ++ shownSettings settings))
  return settings

/-- Open a project with the settings in a file. -/
def openProject (project : String) (settingsPath : Option String) :
    Program (Workbench Console) := do
  let settings ← readSettings settingsPath
  ask (Workbench.openAt project settings)

/-- A path made absolute. -/
def absolutePath (path : String) : Program String := do
  let c : Console ← get
  match Path.absolute? c.disk.workingDirectory path with
  | some absolute => return absolute
  | none => throw (.io .emptyPath)

/-! ## The commands -/

/-- Print the foreign files of a workbench for people. -/
def printFiles (root : String) (files : List String) : StateM Console Unit := do
  printHeader ("Foreign files in " ++ root)
  if files.isEmpty then printWarning "No .tzen files found."
  files.forM printFile
  printSummary "Total:" (toString files.length)

/-- List the foreign files of a project. -/
def runFiles (settingsPath : Option String) (project : String) (format : Format) :
    Program Unit := do
  let bench ← openProject project settingsPath
  let files : List String ← ExceptT.lift bench.externalFiles
  match format with
  | .json => ExceptT.lift (print (Json.ofStrings files).pretty)
  | .text => ExceptT.lift (printFiles bench.root files)

/-- Print resolutions for people. -/
def printResolutions (containing : String) (specifiers : List String) (found : List Resolution) :
    StateM Console Unit := do
  printHeader ("Resolving imports of " ++ containing)
  print (Workbench.resolutionTable (specifiers.zipWith Workbench.ResolutionRow.of found))

/-- Resolve specifiers as if they stood in a file. -/
def runResolve (settingsPath : Option String) (fromFile project : String)
    (specifiers : List String) (format : Format) : Program Unit := do
  let bench ← openProject project settingsPath
  let containing ← absolutePath fromFile
  let found ← ask (bench.host.resolveModuleNames (specifiers.map Specifier.mk) containing {})
  match format with
  | .json => ExceptT.lift (print (Json.array (found.map Resolution.toJson)).pretty)
  | .text => ExceptT.lift (printResolutions containing specifiers found)

/-- Show the snapshot of a file. -/
def runSnapshot (settingsPath : Option String) (path project : String) : Program Unit := do
  let bench ← openProject project settingsPath
  let file ← absolutePath path
  ExceptT.lift (printInfo "File" file)
  let kind : ScriptKind ← ExceptT.lift (bench.host.scriptKind file)
  ExceptT.lift (printInfo "Script kind" kind.name)
  match ← ask (bench.host.scriptSnapshot file) with
  | some snapshot => ExceptT.lift do
      printInfo "Length" (toString snapshot.size)
      printSection "Snapshot"
      print snapshot.text
  | none => ExceptT.lift (printWarning "No snapshot available")

/-- Print definitions for people. -/
def printDefinitions (definitions : List Definition) : StateM Console Unit :=
  if definitions.isEmpty then printWarning "No definition found."
  else
    definitions.forM fun d =>
      printInfo "🔗"
        (d.fileName ++ " [" ++ toString d.span.start ++ ".." ++ toString d.span.stop ++ "]")

/-- Ask for the definitions of a symbol. -/
def runDefinition (settingsPath : Option String) (project file : String) (position : Nat)
    (format : Format) : Program Unit := do
  let bench ← openProject project settingsPath
  let answer ← ask (bench.service.definition file position)
  match format with
  | .json => ExceptT.lift (print (Json.ofOption DefinitionAnswer.toJson answer).pretty)
  | .text =>
    ExceptT.lift (printDefinitions ((answer.map DefinitionAnswer.definitions).getD []))

/-- Write a settings file. -/
def runInit (settingsPath : Option String) (force : Bool) : Program Unit := do
  let path := settingsPath.getD Settings.defaultPath
  edit (Settings.save path {} force)
  ExceptT.lift (printSuccess ("Wrote " ++ path))

/-- Run a command. -/
def runCommand (settingsPath : Option String) : Command → Program Unit
  | .files project format => runFiles settingsPath project format
  | .resolve fromFile project specifiers format =>
    runResolve settingsPath fromFile project specifiers format
  | .snapshot path project => runSnapshot settingsPath path project
  | .definition project file position format =>
    runDefinition settingsPath project file position format
  | .init force => runInit settingsPath force

/-! ## Whole runs -/

/-- The name and version of the program. -/
def versionLine : String := "tzen-bridge 0.0.1"

/-- How the program is called. -/
def usageLine : String := "Usage: tzen-bridge [OPTIONS] <COMMAND>"

/-- Run a command line on a console.  The result is the exit code and the console afterwards. -/
def run (arguments : List String) (console : Console) : Nat × Console :=
  match Invocation.read arguments with
  | .error .usage => (2, (printError usageLine console).2)
  | .error .help => (0, (print usageLine console).2)
  | .error .version => (0, (print versionLine console).2)
  | .ok invocation =>
    let program := runCommand invocation.settingsPath invocation.command
    match program.run { console with verbose := invocation.verbose } with
    | (.ok (), after) => (0, after)
    | (.error failure, after) => (1, (failure.lines.forM printError after).2)

end HostOverlay.Cli
