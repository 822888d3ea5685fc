import HostOverlay.Ignore.Rule
import HostOverlay.Ignore.Glob.Expression
import HostOverlay.Disk.Lookup

/-!
# Ignore files

An ignore file has one rule on each line.  A line with a pattern that is not well formed has none,
and nothing counts from the first line on that is not valid text.  What is wrong with a file is
kept beside its rules as a list of **flaws**, in the order of the lines.

The patterns of a file stand or fall together: if one of them nests too deep, the file has no rules
at all.
-/

set_option autoImplicit false

namespace HostOverlay.Ignore

/-! ## Lines -/

/-- The lines of a file, as bytes, without their line ends: a line feed, with one carriage return
before it. -/
def splitLines : List UInt8 → List (List UInt8)
  | [] => []
  | b :: bs =>
    if b = 10 then [] :: splitLines bs
    else if b = 13 && bs.head? = some 10 then splitLines bs
    else
      match splitLines bs with
      | [] => [[b]]
      | line :: rest => (b :: line) :: rest

/-- The lines of a file as text; a line that is not valid UTF-8 has none. -/
def textLines (content : ByteArray) : List (Option (List Char)) :=
  (splitLines content.toList).map fun line =>
    (String.fromUTF8? ⟨line.toArray⟩).map String.toList

/-- The text without byte order marks in front of it. -/
def dropMarks (line : List Char) : List Char :=
  line.dropWhile fun c => c.toNat = 0xFEFF

/-! ## Files -/

/-- What is wrong with a line of a file. -/
inductive Flaw where
  | badPattern (line : Nat) (pattern : BadPattern)
  /-- The line is not valid text. -/
  | notText (line : Nat)
  deriving DecidableEq, Repr, Inhabited

/-- The wording of what is wrong with a line. -/
def Flaw.message : Flaw → String
  | .badPattern line pattern =>
    "line " ++ toString line ++ ": error parsing glob '" ++ pattern.line ++ "': "
      ++ pattern.cause.message
  | .notText line => "line " ++ toString line ++ ": " ++ IoError.invalidText.message

/-- What an ignore file says, and what is wrong with it. -/
structure File where
  /-- The rules in the order of the lines. -/
  rules : List Rule := []
  flaws : List Flaw := []
  /-- The pattern that nests too deep, if the file has no rules on account of one. -/
  tooDeep : Option Glob := none
  deriving Inhabited

namespace File

/-- Read the lines of a file, of which the first has number `n`. -/
def ofLines (n : Nat) : List (Option (List Char)) → File
  | [] => {}
  | none :: _ => { flaws := [.notText n] }
  | some line :: rest =>
    let file := ofLines (n + 1) rest
    match Rule.parse line with
    | .ok none => file
    | .ok (some rule) => { file with rules := rule :: file.rules }
    | .error pattern => { file with flaws := .badPattern n pattern :: file.flaws }

/-- The first of the patterns that nest too deep.  Those that end in an extension are looked at
before all others. -/
def firstTooDeep (rules : List Rule) : Option Glob :=
  let deep := (rules.map Rule.glob).filter Glob.isTooDeep
  (deep.find? Glob.endsInExtension).or deep.head?

/-- Leave a file without rules if one of its patterns nests too deep. -/
def bounded (f : File) : File :=
  match firstTooDeep f.rules with
  | none => f
  | some glob => { f with rules := [], tooDeep := some glob }

/-- Read the content of a file. -/
def ofContent (content : ByteArray) : File :=
  match textLines content with
  | some first :: rest => (ofLines 1 (some (dropMarks first) :: rest)).bounded
  | lines => (ofLines 1 lines).bounded

/-- The file at a written path; a file that cannot be read says nothing. -/
def load (d : Disk) (path : String) : File :=
  match d.fetch path with
  | .ok content => ofContent content
  | .error _ => {}

end File

/-! ## Complaints -/

/-- What is wrong with a file that has a say in what is left out. -/
inductive Complaint where
  | flawed (path : String) (flaw : Flaw)
  | tooDeep (glob : Glob)
  | unreadable (path : String) (cause : IoError)
  deriving Repr, Inhabited

/-- The wording of a complaint.  Of the globs that nest too deep those are shown that end in an
extension, since each of them is looked at by itself. -/
def Complaint.message : Complaint → String
  | .flawed path flaw => Path.shown path ++ ": " ++ flaw.message
  | .tooDeep glob =>
    (if glob.endsInExtension then "error parsing glob '" ++ glob.expressionText ++ "': " else "")
      ++ "error parsing pattern 0"
  | .unreadable path cause => Path.shown path ++ ": " ++ cause.message

/-- The complaints about the lines of the file at `path`.  There are none when the only flaw is a
line that is not valid text. -/
def File.lineComplaints (path : String) (f : File) : List Complaint :=
  match f.flaws with
  | [.notText _] => []
  | flaws => flaws.map (.flawed path)

/-- The complaints about the file at `path`: those about its lines, then that about its depth. -/
def File.complaints (path : String) (f : File) : List Complaint :=
  f.lineComplaints path ++ (f.tooDeep.map Complaint.tooDeep).toList

end HostOverlay.Ignore
