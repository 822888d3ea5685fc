import HostOverlay.Text.Digit

/-!
# The command line

A command line names a command, with options before and behind the name.  An option has a long
name behind two dashes and may have a letter behind one; a value follows it as the next argument,
behind an equals sign, or right behind the letter.  Letters of options without a value may be run
together.  Behind `--` nothing is an option.

`Invocation.read` works in two steps: `items` sorts the arguments into options and words, and a
`Draft` collects them.  No option is given twice; but the options that are meant for every command
may stand once before its name and once behind it, and then the one behind it counts.
-/

set_option autoImplicit false

namespace HostOverlay.Cli

/-! ## What can be said -/

/-- How results are printed. -/
inductive Format where
  | text
  | json
  deriving DecidableEq, Repr, Inhabited

/-- The formats by name. -/
def Format.of? (name : String) : Option Format :=
  if name = "text" then some .text else if name = "json" then some .json else none

/-- What to do. -/
inductive Command where
  /-- List the foreign files of a project. -/
  | files (project : String) (format : Format)
  /-- Resolve specifiers as if they stood in a file. -/
  | resolve (fromFile project : String) (specifiers : List String) (format : Format)
  /-- Show the snapshot of a file. -/
  | snapshot (path project : String)
  /-- Ask for the definitions of a symbol. -/
  | definition (project file : String) (position : Nat) (format : Format)
  /-- Write a settings file. -/
  | init (force : Bool)
  deriving DecidableEq, Repr, Inhabited

/-- A command with the options that are meant for every command. -/
structure Invocation where
  verbose : Bool := false
  /-- The path of the settings file. -/
  settingsPath : Option String := none
  command : Command
  deriving DecidableEq, Repr, Inhabited

/-- Why there is nothing to run. -/
inductive Refusal where
  /-- The arguments make no command. -/
  | usage
  /-- Help was asked for. -/
  | help
  /-- The version was asked for. -/
  | version
  deriving DecidableEq, Repr, Inhabited

/-! ## Options -/

/-- The options. -/
inductive Flag where
  | verbose
  | config
  | project
  | format
  | fromFile
  | file
  | position
  | force
  | help
  | version
  deriving DecidableEq, Repr, Inhabited

namespace Flag

/-- The long name of an option. -/
def name : Flag → String
  | .verbose => "verbose"
  | .config => "config"
  | .project => "project"
  | .format => "format"
  | .fromFile => "from"
  | .file => "file"
  | .position => "position"
  | .force => "force"
  | .help => "help"
  | .version => "version"

/-- The letter of an option. -/
def letter? : Flag → Option Char
  | .verbose => some 'v'
  | .config => some 'c'
  | .project => some 'p'
  | .format => some 'f'
  | .help => some 'h'
  | .version => some 'V'
  | _ => none

/-- Does a value follow the option? -/
def takesValue : Flag → Bool
  | .config | .project | .format | .fromFile | .file | .position => true
  | .verbose | .force | .help | .version => false

/-- The options before the name of the command. -/
def leading : List Flag := [.verbose, .config, .help, .version]

/-- The options meant for every command, behind its name. -/
def everywhere : List Flag := [.verbose, .config, .help]

end Flag

/-! ## Arguments by what they are -/

/-- A piece of a command line. -/
inductive Item where
  /-- An option without a value. -/
  | switch (flag : Flag)
  /-- An option with its value. -/
  | setting (flag : Flag) (value : String)
  /-- An argument that is no option. -/
  | word (text : String)
  /-- Something that is not understood. -/
  | unknown
  deriving DecidableEq, Repr, Inhabited

/-- Pieces in one argument, and the option at its end that still wants its value. -/
structure Reading where
  items : List Item
  pending : Option Flag := none

/-- A long option, read behind its dashes. -/
def readLong (flags : List Flag) (cs : List Char) : Reading :=
  let name := String.ofList (cs.takeWhile (· ≠ '='))
  match flags.find? (·.name = name), cs.dropWhile (· ≠ '=') with
  | none, _ => ⟨[.unknown], none⟩
  | some flag, [] => if flag.takesValue then ⟨[], some flag⟩ else ⟨[.switch flag], none⟩
  | some flag, _ :: value =>
    if flag.takesValue then ⟨[.setting flag (String.ofList value)], none⟩ else ⟨[.unknown], none⟩

/-- The letters of options, read behind their dash. -/
def readLetters (flags : List Flag) : List Char → Reading
  | [] => ⟨[], none⟩
  | c :: rest =>
    match flags.find? (·.letter? = some c) with
    | none => ⟨[.unknown], none⟩
    | some flag =>
      if flag.takesValue then
        match rest with
        | [] => ⟨[], some flag⟩
        | '=' :: value => ⟨[.setting flag (String.ofList value)], none⟩
        | value => ⟨[.setting flag (String.ofList value)], none⟩
      else
        let r := readLetters flags rest
        ⟨.switch flag :: r.items, r.pending⟩

/-- An argument read by itself, `none` when it is no option. -/
def read? (flags : List Flag) (argument : String) : Option Reading :=
  match argument.toList with
  | '-' :: '-' :: cs => some (readLong flags cs)
  | '-' :: c :: cs => some (readLetters flags (c :: cs))
  | _ => none

/-- The pieces of a command line, and the arguments from the first word on when `halt` says to stop
there. -/
def items (flags : List Flag) (halt : Bool) : List String → List Item × List String
  | [] => ([], [])
  | argument :: rest =>
    if argument = "--" then (if halt then [.unknown] else rest.map .word, [])
    else
      match read? flags argument with
      | none =>
        if halt then ([], argument :: rest)
        else
          let (found, left) := items flags halt rest
          (.word argument :: found, left)
      | some ⟨found, none⟩ =>
        let (more, left) := items flags halt rest
        (found ++ more, left)
      | some ⟨found, some flag⟩ =>
        match rest with
        | [] => (found ++ [.unknown], [])
        | value :: rest =>
          if (read? flags value).isSome then (found ++ [.unknown], [])
          else
            let (more, left) := items flags halt rest
            (found ++ .setting flag value :: more, left)

/-! ## Collecting -/

/-- What has been said so far. -/
structure Draft where
  /-- The options that have been given. -/
  given : List Flag := []
  settingsPath : Option String := none
  project : String := "."
  format : Format := .text
  fromFile : Option String := none
  file : String := ""
  position : Nat := 0
  words : List String := []

/-- A path, which is never empty. -/
def path? (value : String) : Option String :=
  if value = "" then none else some value

/-- The first number that is too large for a position. -/
def positionBound : Nat := 0x10000000000000000

/-- A position: digits, and perhaps a plus before them. -/
def position? (value : String) : Option Nat :=
  let digits :=
    match value.toList with
    | '+' :: ds => ds
    | ds => ds
  if digits.isEmpty then none else (Text.number? 10 digits).filter (· < positionBound)

/-- Take the value of an option. -/
def Draft.set? (d : Draft) (value : String) : Flag → Option Draft
  | .config => (path? value).map fun p => { d with settingsPath := some p }
  | .project => (path? value).map fun p => { d with project := p }
  | .format => (Format.of? value).map fun f => { d with format := f }
  | .fromFile => (path? value).map fun p => { d with fromFile := some p }
  | .file => some { d with file := value }
  | .position => (position? value).map fun n => { d with position := n }
  | .verbose | .force | .help | .version => none

/-- Note that an option is given; it must not have been before. -/
def Draft.note? (d : Draft) (flag : Flag) : Option Draft :=
  if d.given.contains flag then none else some { d with given := flag :: d.given }

/-- Take one piece, where `accepts` says how many words there may be. -/
def Draft.take (accepts : Nat → Bool) (d : Draft) : Item → Except Refusal Draft
  | .switch .help => .error .help
  | .switch .version => .error .version
  | .switch flag =>
    match d.note? flag with
    | some d' => .ok d'
    | none => .error .usage
  | .setting flag value =>
    match (d.note? flag).bind fun d' => d'.set? value flag with
    | some d' => .ok d'
    | none => .error .usage
  | .word text =>
    if accepts (d.words.length + 1) then .ok { d with words := d.words ++ [text] }
    else .error .usage
  | .unknown => .error .usage

/-- Is the option among those given? -/
def Draft.has (d : Draft) (flag : Flag) : Bool := d.given.contains flag

/-! ## Commands -/

/-- The names of the commands. -/
inductive Verb where
  | files
  | resolve
  | snapshot
  | definition
  | init
  deriving DecidableEq, Repr, Inhabited

namespace Verb

/-- All commands. -/
def all : List Verb := [.files, .resolve, .snapshot, .definition, .init]

/-- The name of a command. -/
def name : Verb → String
  | .files => "files"
  | .resolve => "resolve"
  | .snapshot => "snapshot"
  | .definition => "definition"
  | .init => "init"

/-- The command of a name. -/
def of? (name : String) : Option Verb := all.find? (·.name = name)

/-- The options of a command. -/
def flags : Verb → List Flag
  | .files => [.project, .format]
  | .resolve => [.fromFile, .project, .format]
  | .snapshot => [.project]
  | .definition => [.project, .file, .position, .format]
  | .init => [.force]

/-- May the command have that many words? -/
def accepts : Verb → Nat → Bool
  | .resolve, _ => true
  | .snapshot, n => n ≤ 1
  | _, n => n = 0

/-- The command that a draft makes, when nothing is missing from it. -/
def command? (v : Verb) (d : Draft) : Option Command :=
  match v with
  | .files => some (.files d.project d.format)
  | .resolve => do
    let fromFile ← d.fromFile
    if d.words.isEmpty then none else some (.resolve fromFile d.project d.words d.format)
  | .snapshot => do
    let path ← d.words.head?.bind path?
    some (.snapshot path d.project)
  | .definition => some (.definition d.project d.file d.position d.format)
  | .init => some (.init (d.has .force))

end Verb

namespace Invocation

/-- The answer to a request for help on the given topic. -/
def helpOn : List String → Refusal
  | [] => .help
  | [topic] => if (Verb.of? topic).isSome || topic = "help" then .help else .usage
  | _ => .usage

/-- The invocation that a command line makes. -/
def read (arguments : List String) : Except Refusal Invocation := do
  let (found, rest) := items Flag.leading true arguments
  let outer ← found.foldlM (Draft.take fun _ => false) {}
  match rest with
  | [] => .error .usage
  | name :: rest =>
    if name = "help" then .error (helpOn rest)
    else
      match Verb.of? name with
      | none => .error .usage
      | some verb =>
        let (found, _) := items (verb.flags ++ Flag.everywhere) false rest
        let inner ← found.foldlM (Draft.take verb.accepts) {}
        match verb.command? inner with
        | none => .error .usage
        | some command =>
          return {
            verbose := outer.has .verbose || inner.has .verbose
            settingsPath := inner.settingsPath.or outer.settingsPath
            command }

end Invocation

end HostOverlay.Cli
