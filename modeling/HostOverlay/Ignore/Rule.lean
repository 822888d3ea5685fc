import HostOverlay.Ignore.Glob.Matching

/-!
# Ignore rules

A rule is a pattern on a line of an ignore file.  It says which entries below the directory of the
file are left out of a project, or, behind a `!`, which are kept in after all.  Of the rules that
speak of an entry the **last** one in the file decides.

A line that begins with `#` and an empty line say nothing; blanks at the end of a line do not count
unless a backslash stands before the last one.  A pattern with a slash in it, other than at its end,
describes paths from the directory of the file; any other pattern describes names at every depth.  A
slash at the end restricts the pattern to directories.
-/

set_option autoImplicit false

namespace HostOverlay.Ignore

/-- What a set of rules says about an entry. -/
inductive Verdict where
  /-- Nothing. -/
  | silent
  /-- It is left out. -/
  | leaveOut
  /-- It is kept in. -/
  | keep
  deriving DecidableEq, Repr, Inhabited

/-- The first verdict that says something. -/
def Verdict.or : Verdict → Verdict → Verdict
  | .silent, v => v
  | v, _ => v

/-- One pattern of an ignore file. -/
structure Rule where
  glob : Glob
  /-- Does the pattern keep entries in? -/
  isNegated : Bool
  /-- Does the pattern speak of directories only? -/
  onlyDirs : Bool
  deriving Repr, Inhabited

/-! ## Reading a line -/

/-- The characters that count as blank at the end of a line. -/
def isBlank (c : Char) : Bool :=
  let n := c.toNat
  (9 ≤ n && n ≤ 13) || n = 0x20 || n = 0x85 || n = 0xA0 || n = 0x1680
    || (0x2000 ≤ n && n ≤ 0x200A) || n = 0x2028 || n = 0x2029 || n = 0x202F || n = 0x205F
    || n = 0x3000

/-- The line without the blanks at its end; an escaped blank there keeps them all. -/
def trimEnd (line : List Char) : List Char :=
  if ['\\', ' '].isSuffixOf line then line else (line.reverse.dropWhile isBlank).reverse

/-- Take away the marks in front of a pattern: whether it is negated, whether it is bound to the
directory of the file, and the pattern. -/
def leadingMarks (line : List Char) : Bool × Bool × List Char :=
  match line with
  | '\\' :: '!' :: rest => (false, false, '!' :: rest)
  | '\\' :: '#' :: rest => (false, false, '#' :: rest)
  | '!' :: '/' :: rest => (true, true, rest)
  | '!' :: rest => (true, false, rest)
  | '/' :: rest => (false, true, rest)
  | rest => (false, false, rest)

/-- Take away the slash at the end of a pattern, with a backslash before it. -/
def trailingSlash (line : List Char) : Bool × List Char :=
  match line.reverse with
  | '/' :: '\\' :: rest => (true, rest.reverse)
  | '/' :: rest => (true, rest.reverse)
  | _ => (false, line)

/-- The glob text of a pattern: names at every depth unless the pattern is bound or has a slash, and
what is below a directory rather than the directory for a pattern that ends in `/**`. -/
def globText (bound : Bool) (line : List Char) : List Char :=
  let anywhere := !bound && !line.contains '/'
  let line := if anywhere && line ≠ ['*', '*'] then ['*', '*', '/'] ++ line else line
  if ['/', '*', '*'].isSuffixOf line then line ++ ['/', '*'] else line

/-- A pattern that is not well formed. -/
structure BadPattern where
  /-- The line without the blanks at its end. -/
  line : String
  cause : Glob.ParseError
  deriving DecidableEq, Repr, Inhabited

/-- The rule on a line, if the line has one. -/
def Rule.parse (line : List Char) : Except BadPattern (Option Rule) :=
  if ['#'].isPrefixOf line then .ok none
  else
    let line := trimEnd line
    if line.isEmpty then .ok none
    else
      let (isNegated, bound, pattern) := leadingMarks line
      let (onlyDirs, pattern) := trailingSlash pattern
      match Glob.parse (String.ofList (globText bound pattern)) with
      | .ok glob => .ok (some ⟨glob, isNegated, onlyDirs⟩)
      | .error cause => .error ⟨String.ofList line, cause⟩

/-! ## What rules say -/

/-- Does the rule speak of the entry at `path`? -/
def Rule.appliesTo (r : Rule) (path : String) (isDir : Bool) : Bool :=
  (!r.onlyDirs || isDir) && r.glob.matchesPath path

/-- What a file's rules say of the entry at `path` below the directory of the file. -/
def verdict (rs : List Rule) (path : String) (isDir : Bool) : Verdict :=
  match rs.reverse.find? fun r => r.appliesTo path isDir with
  | none => .silent
  | some r => if r.isNegated then .keep else .leaveOut

end HostOverlay.Ignore
