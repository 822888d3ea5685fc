import HostOverlay.Toml.Scalar
import HostOverlay.Toml.Text

/-!
# Reading TOML

`parse?` reads a document and is `none` for a text that is none.  A document is read line by line; a
line is empty, or has a key with its value, or a header, and may end in a comment.  Values may go
over several lines.

Arrays and tables between braces nest at most `maxDepth` deep, and a dotted key has at most that
many parts.
-/

set_option autoImplicit false

namespace HostOverlay.Toml

/-- How deep values nest, and how many parts a key has, at most. -/
def maxDepth : Nat := 79

/-- The text behind any blanks. -/
def skipBlanks (cs : List Char) : List Char := cs.dropWhile isBlank

/-! ## Keys -/

/-- The characters that a key may have without quotes. -/
def isBareChar (c : Char) : Bool :=
  ('a' ≤ c && c ≤ 'z') || ('A' ≤ c && c ≤ 'Z') || ('0' ≤ c && c ≤ '9') || c = '_' || c = '-'

/-- One part of a key: a text of one line or a bare word. -/
def keyPart? (cs : List Char) : Option (String × List Char) :=
  match cs with
  | [] => none
  | c :: rest =>
    if c = '"' then (basicTail? rest).map fun (s, r) => (String.ofList s, r)
    else if c = '\x27' then (literalTail? rest).map fun (s, r) => (String.ofList s, r)
    else if isBareChar c then
      some (String.ofList (cs.takeWhile isBareChar), cs.dropWhile isBareChar)
    else none

/-- A key of at most `budget` parts, with the blanks around them: the parts before the last, and the
last. -/
def key? : Nat → List Char → Option ((List String × String) × List Char)
  | 0, _ => none
  | budget + 1, cs =>
    match keyPart? (skipBlanks cs) with
    | none => none
    | some (part, rest) =>
      match expect? '.' (skipBlanks rest) with
      | some rest' => (key? budget rest').map fun ((path, last), r) => ((part :: path, last), r)
      | none => some (([], part), skipBlanks rest)

/-! ## Values -/

/-- The text behind blanks, line breaks and comments.  Every comment has to end in a line break. -/
def skipSpace? : (inComment : Bool) → List Char → Option (List Char)
  | inComment, [] => if inComment then none else some []
  | _, '\r' :: '\n' :: rest => skipSpace? false rest
  | inComment, c :: rest =>
    if c = '\n' then skipSpace? false rest
    else if inComment then if isTextChar c then skipSpace? true rest else none
    else if isBlank c then skipSpace? false rest
    else if c = '#' then skipSpace? true rest
    else some (c :: rest)

/-- The elements of an array, at most `budget` of them, with the closing bracket.  A comma may
follow the last. -/
def elements? (element? : List Char → Option (Value × List Char)) :
    Nat → List Char → Option (List Value × List Char)
  | 0, _ => none
  | budget + 1, cs => do
    let cs ← skipSpace? false cs
    match expect? ']' cs with
    | some rest => some ([], rest)
    | none =>
      let (v, rest) ← element? cs
      let rest ← skipSpace? false rest
      match expect? ',' rest with
      | some rest => (elements? element? budget rest).map fun (vs, r) => (v :: vs, r)
      | none => (expect? ']' rest).map fun r => ([v], r)

/-- A key with its value, and the blanks around them. -/
def pair? (element? : List Char → Option (Value × List Char)) (cs : List Char) :
    Option ((List String × String) × Value × List Char) := do
  let (key, rest) ← key? maxDepth cs
  let (v, rest) ← element? (skipBlanks (← expect? '=' rest))
  return (key, v, skipBlanks rest)

/-- The entries of a table between braces that has at least one, at most `budget` of them, with the
closing brace.  They are added to `entries`. -/
def members? (element? : List Char → Option (Value × List Char)) :
    Nat → Entries → List Char → Option (Entries × List Char)
  | 0, _, _ => none
  | budget + 1, entries, cs => do
    let ((path, key), v, rest) ← pair? element? cs
    let entries ← entries.addDotted path key v .braces
    match expect? ',' rest with
    | some rest => members? element? budget entries rest
    | none => (expect? '}' rest).map fun r => (entries, r)

/-- The value at the start of the text, nested at most `depth` deep. -/
def value? : (depth : Nat) → List Char → Option (Value × List Char)
  | depth, cs =>
    match cs with
    | [] => none
    | c :: rest =>
      if c = '"' || c = '\x27' then
        (text? cs).map fun (s, r) => (.text (String.ofList s), r)
      else if c = '[' then
        match depth with
        | 0 => none
        | depth + 1 =>
          (elements? (value? depth) cs.length rest).map fun (vs, r) => (.array vs, r)
      else if c = '{' then
        match depth with
        | 0 => none
        | depth + 1 =>
          match expect? '}' (skipBlanks rest) with
          | some r => some (.table .braces [], r)
          | none =>
            (members? (value? depth) cs.length [] rest).map fun (es, r) => (.table .braces es, r)
      else scalar? cs

/-! ## Documents -/

/-- The part of a document that has been read: all of its entries, and the header whose table the
next line belongs to. -/
structure Document where
  entries : Entries := []
  header : List String := []
  deriving Repr, Inhabited

/-- What follows the end of a line, with blanks and a comment before it. -/
def lineEnd? (cs : List Char) : Option (List Char) :=
  let cs := skipBlanks cs
  let cs :=
    match expect? '#' cs with
    | some rest => rest.dropWhile isTextChar
    | none => cs
  if cs.isEmpty then some [] else newline? cs

/-- Add a value to the table that the last header has started. -/
def Document.add (d : Document) (path : List String) (key : String) (v : Value) :
    Option Document := do
  let entries ← d.entries.within .passing (fun o es => es.addDotted path key v o) d.header .header
  return { d with entries }

/-- Read a header behind its first bracket. -/
def Document.header? (d : Document) (cs : List Char) : Option (Document × List Char) :=
  match expect? '[' cs with
  | some rest => do
    let ((path, key), rest) ← key? maxDepth rest
    let rest ← expectWord? "]]" rest
    return (⟨← d.entries.openNext path key, path ++ [key]⟩, rest)
  | none => do
    let ((path, key), rest) ← key? maxDepth cs
    let rest ← expect? ']' rest
    return (⟨← d.entries.openTable path key, path ++ [key]⟩, rest)

/-- Read what a line says, up to the blanks and the comment at its end. -/
def Document.line? (d : Document) (cs : List Char) : Option (Document × List Char) :=
  match cs with
  | [] => some (d, [])
  | c :: rest =>
    if c = '#' || c = '\n' || c = '\r' then some (d, cs)
    else if c = '[' then d.header? rest
    else do
      let ((path, key), v, rest) ← pair? (value? maxDepth) cs
      return (← d.add path key v, rest)

/-- Read lines, at most `budget` of them. -/
def Document.lines? : Nat → Document → List Char → Option Document
  | 0, _, _ => none
  | budget + 1, d, cs =>
    let cs := skipBlanks cs
    if cs.isEmpty then some d
    else do
      let (d, rest) ← d.line? cs
      lines? budget d (← lineEnd? rest)

/-- The text without a byte order mark at its start. -/
def skipMark : List Char → List Char
  | '\uFEFF' :: rest => rest
  | cs => cs

/-- The table that a text is the TOML of. -/
def parse? (s : String) : Option Entries :=
  let cs := s.toList
  (Document.lines? (cs.length + 1) {} (skipMark cs)).map (·.entries)

end HostOverlay.Toml
