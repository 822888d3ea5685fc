import HostOverlay.Host.Basic

/-!
# A host over a disk

The workbench has a host of its own, so that the layer can be used without an editor.  It reads
everything straight from the disk and has never heard of foreign files.

A relative or absolute import is looked for at a list of **candidates**: the file it names, if that
has a known extension, then the file with each extension added, then an index file in the directory
of that name.  The first candidate that is a regular file is the module, and the ones before it are
reported as failed lookups.  Imports of packages are not resolved at all.
-/

set_option autoImplicit false

namespace HostOverlay.Workbench

variable {σ : Type}

/-! ## Files -/

/-- The text at a path; a file that is not there has none. -/
def readText (d : Disk) (path : String) : Except IoError (Option String) :=
  match d.readText path with
  | .ok text => .ok (some text)
  | .error .notFound => .ok none
  | .error e => .error e

/-- The version of what is at a path: its size and the time of its last modification, with zero
for a time before 1970, or just zero when nothing is there. -/
def version (d : Disk) (path : String) : String :=
  match d.metadata path with
  | .ok (size, modified) => toString size ++ "-" ++ toString modified.toNat
  | .error _ => "0"

/-! ## Imports -/

/-- Does the specifier name a file rather than a package? -/
def namesFile (text : String) : Bool :=
  ["./", "../", "/"].any fun start => start.toList.isPrefixOf text.toList

/-- The places where the module at `base` is looked for, in order. -/
def candidates (base : String) (extensions : List Extension) : List String :=
  (if (Extension.of? base).isSome then [base] else [])
    ++ extensions.map (fun e => base ++ e.spelling)
    ++ extensions.map (fun e => base ++ "/index" ++ e.spelling)

/-- The resolution that the first existing one of `candidates` gives. -/
def firstModule (isFile : String → Bool) (candidates : List String) : Resolution :=
  let failed := candidates.takeWhile fun c => !isFile c
  match candidates.dropWhile fun c => !isFile c with
  | [] => .unresolved failed
  | found :: _ => ⟨some ⟨found, (Extension.of? found).getD .ts, false⟩, failed⟩

/-- The resolution of one specifier in the file `containing`. -/
def resolveOne (isFile : String → Bool) (options : ResolutionOptions) (containing : String)
    (specifier : Specifier) : Resolution :=
  if namesFile specifier.text then
    let base := Path.resolve (Path.directory containing) specifier.text
    firstModule isFile (candidates base options.extensions)
  else .unresolved []

/-- Write a diagnostic about a specifier that names a file and was not found. -/
def noteUnresolved [Traced σ] (containing : String) (specifier : Specifier) (r : Resolution) :
    StateM σ Unit :=
  if namesFile specifier.text && r.module.isNone then
    trace .debug "tzen_bridge::workbench::fs_host"
      ("Could not resolve '" ++ specifier.text ++ "' from " ++ containing)
  else pure ()

/-- Resolve the specifiers of a file one after the other. -/
def resolveAll [Traced σ] [OnDisk σ] (options : ResolutionOptions) (containing : String) :
    List Specifier → StateM σ (List Resolution)
  | [] => pure []
  | s :: rest => do
    let disk : Disk ← getDisk
    let r := resolveOne disk.isFile options containing s
    noteUnresolved containing s r
    return r :: (← resolveAll options containing rest)

/-! ## The host -/

/-- The host of the project at `root` with the given files. -/
def diskHost [Traced σ] [OnDisk σ] (root : String) (files : List String) : Host σ where
  currentDirectory := pure root
  scriptFileNames := pure files
  scriptVersion path := return version (← getDisk) path
  scriptKind path := pure (ScriptKind.ofPath path)
  scriptSnapshot path := do
    let disk : Disk ← ExceptT.lift getDisk
    return (← Request.ofIo (readText disk path)).map Snapshot.mk
  resolveModuleNames specifiers containing options :=
    ExceptT.lift (resolveAll options containing specifiers)
  fileExists path := return (← getDisk).isFile path
  fileContent path := do
    let disk : Disk ← ExceptT.lift getDisk
    Request.ofIo (readText disk path)

end HostOverlay.Workbench
