import HostOverlay.Host.Basic
import HostOverlay.Text.Alphanumeric

/-!
# A service without a checker

The workbench's service answers from what its host serves and nothing else: the word at the cursor,
and the files that have a snapshot.  It knows of no definitions.
-/

set_option autoImplicit false

namespace HostOverlay.Workbench

variable {σ : Type}

/-- The characters that words are made of. -/
def isWordChar (c : Char) : Bool :=
  Text.isAlphanumeric c || c = '_' || c = '$'

/-- The span of the word that touches the byte offset `position`: the word characters before it and
those behind it.  `none` when there are neither, and when the offset is no boundary in the text. -/
def wordAt (text : String) (position : Nat) : Option TextSpan :=
  match Text.splitAtByte text.toList position with
  | none => none
  | some (before, after) =>
    let left := Text.byteSize (before.reverse.takeWhile isWordChar)
    let right := Text.byteSize (after.takeWhile isWordChar)
    if 0 < left + right then some ⟨position - left, left + right⟩ else none

/-- What is shown for a word: the word itself and the kind of its file. -/
def wordInfo (snapshot : Snapshot) (kind : ScriptKind) (span : TextSpan) : QuickInfo where
  kind := .unknown
  span := span
  display := snapshot.part span.start span.stop ++ " (" ++ kind.name ++ ")"

/-- Those of `files` that the host has a snapshot of. -/
def served (host : Host σ) : List String → Request σ (List String)
  | [] => pure []
  | file :: rest => do
    match ← host.scriptSnapshot file with
    | some _ => return file :: (← served host rest)
    | none => served host rest

/-- The service over a host. -/
def wordService (host : Host σ) : Service σ where
  definition _ _ := pure none
  quickInfo file position := do
    match ← host.scriptSnapshot file with
    | none => return none
    | some snapshot =>
      match wordAt snapshot.text position with
      | none => return none
      | some span =>
        let kind : ScriptKind ← ExceptT.lift (host.scriptKind file)
        return some (wordInfo snapshot kind span)
  programFileNames := do
    let files : List String ← ExceptT.lift host.scriptFileNames
    served host files

end HostOverlay.Workbench
