import HostOverlay.Text.Digit

/-!
# Texts in TOML

TOML has four ways to write a text: in double quotes with escapes (**basic**), in apostrophes
without any (**literal**), and both of these in three quotes over several lines.

`Form.choose` picks the plainest form that shows a text as it is: basic when nothing would have to
be escaped, then literal, then basic over several lines, then literal over several lines, and a
basic form with escapes when none of these will do.  `Form.write` writes a text in a form, and the
functions `…Tail?` read the rest of a text behind its opening quotes.
-/

set_option autoImplicit false

namespace HostOverlay.Toml

/-! ## Writing -/

/-- The ways to write a text. -/
inductive Form where
  | basic
  | literal
  | multiBasic
  | multiLiteral
  deriving DecidableEq, Repr, Inhabited

/-- Can the character be written in no other way than by an escape?  A tab and a line break can. -/
def needsEscape (c : Char) : Bool :=
  (c.toNat ≤ 0x1f || c.toNat = 0x7f) && c ≠ '\t' && c ≠ '\n'

/-- The length of the longest run of `q` in a text, where `run` of them come before it. -/
def longestRun (q : Char) : Nat → List Char → Nat
  | run, [] => run
  | run, c :: rest => if c = q then longestRun q (run + 1) rest else max run (longestRun q 0 rest)

/-- The form in which a text is written. -/
def Form.choose (cs : List Char) : Form :=
  let escapes := cs.any needsEscape
  let backslash := cs.contains '\\'
  let lines := cs.contains '\n'
  let quotes := longestRun '"' 0 cs
  let apostrophes := longestRun '\x27' 0 cs
  if !escapes && !backslash && quotes = 0 && !lines then .basic
  else if !escapes && apostrophes = 0 && !lines then .literal
  else if !escapes && !backslash && quotes ≤ 2 then .multiBasic
  else if !escapes && apostrophes ≤ 2 then .multiLiteral
  else if lines then .multiBasic
  else .basic

/-- A capital hexadecimal digit. -/
def hexDigit (n : Nat) : Char :=
  if n < 10 then Char.ofNat (n + 48) else Char.ofNat (n + 55)

/-- The escape of a character that cannot stand for itself in a basic text; line breaks can when the
text may have several lines. -/
def escape? (multi : Bool) (c : Char) : Option (List Char) :=
  if c = '\x08' then some ['\\', 'b']
  else if c = '\t' then some ['\\', 't']
  else if c = '\n' then if multi then none else some ['\\', 'n']
  else if c = '\x0c' then some ['\\', 'f']
  else if c = '\r' then some ['\\', 'r']
  else if c = '\\' then some ['\\', '\\']
  else if c.toNat ≤ 0x1f || c.toNat = 0x7f then
    some ['\\', 'u', '0', '0', hexDigit (c.toNat / 16), hexDigit (c.toNat % 16)]
  else none

/-- The inside of a basic text, behind `run` quotes in a row.  A text of one line has all its quotes
escaped, a text of several lines every third one in a row. -/
def writeBasic (multi : Bool) : Nat → List Char → List Char
  | _, [] => []
  | run, c :: rest =>
    if c = '"' then
      if (if multi then 2 else 0) ≤ run then '\\' :: '"' :: writeBasic multi 0 rest
      else '"' :: writeBasic multi (run + 1) rest
    else
      match escape? multi c with
      | some e => e ++ writeBasic multi 0 rest
      | none => c :: writeBasic multi 0 rest

/-- Three of a kind of quote. -/
def triple (q : Char) : List Char := [q, q, q]

/-- The line break behind the opening quotes of a text that has line breaks itself. -/
def firstBreak (cs : List Char) : List Char :=
  if cs.contains '\n' then ['\n'] else []

/-- A text in a form, quotes included. -/
def Form.write (cs : List Char) : Form → List Char
  | .basic => '"' :: (writeBasic false 0 cs ++ ['"'])
  | .literal => '\x27' :: (cs ++ ['\x27'])
  | .multiBasic => triple '"' ++ firstBreak cs ++ writeBasic true 0 cs ++ triple '"'
  | .multiLiteral => triple '\x27' ++ firstBreak cs ++ cs ++ triple '\x27'

/-- A text as it is written. -/
def writeText (s : String) : String :=
  String.ofList ((Form.choose s.toList).write s.toList)

/-! ## Reading -/

/-- The characters between the parts of a line. -/
def isBlank (c : Char) : Bool := c = ' ' || c = '\t'

/-- May the character stand inside a text?  Of the control characters only the tab may. -/
def isTextChar (c : Char) : Bool :=
  c = '\t' || (0x20 ≤ c.toNat && c.toNat ≠ 0x7f)

/-- What follows a line break at the start of the text. -/
def newline? : List Char → Option (List Char)
  | '\n' :: rest => some rest
  | '\r' :: '\n' :: rest => some rest
  | _ => none

/-- The text without a line break at its start. -/
def skipNewline (cs : List Char) : List Char := (newline? cs).getD cs

theorem length_of_newline? {cs rest : List Char} (h : newline? cs = some rest) :
    rest.length < cs.length := by
  unfold newline? at h
  split at h
  · cases h
    exact Nat.lt_succ_self _
  · cases h
    simp only [List.length_cons]
    omega
  · cases h

/-- The character with the given code point. -/
def charOf? (n : Nat) : Option Char :=
  if h : n.isValidChar then some (Char.ofNatAux n h) else none

/-- The character that `n` hexadecimal digits at the start of the text stand for. -/
def codePoint? (n : Nat) (cs : List Char) : Option (Char × List Char) :=
  if cs.length < n then none
  else (Text.number? 16 (cs.take n) >>= charOf?).map fun c => (c, cs.drop n)

/-- The character that a one-letter escape stands for. -/
def simpleEscape? (c : Char) : Option Char :=
  if c = 'b' then some '\x08'
  else if c = 't' then some '\t'
  else if c = 'n' then some '\n'
  else if c = 'f' then some '\x0c'
  else if c = 'r' then some '\r'
  else if c = '"' then some '"'
  else if c = '\\' then some '\\'
  else none

/-- The character that an escape stands for, read behind the backslash. -/
def unescape? : List Char → Option (Char × List Char)
  | [] => none
  | c :: rest =>
    match simpleEscape? c with
    | some e => some (e, rest)
    | none =>
      if c = 'u' then codePoint? 4 rest
      else if c = 'U' then codePoint? 8 rest
      else none

theorem length_of_codePoint? {n : Nat} {cs rest : List Char} {c : Char}
    (h : codePoint? n cs = some (c, rest)) : rest.length ≤ cs.length := by
  unfold codePoint? at h
  split at h
  · simp at h
  · obtain ⟨_, _, heq⟩ := Option.map_eq_some_iff.1 h
    simp only [Prod.mk.injEq] at heq
    rw [← heq.2, List.length_drop]
    omega

theorem length_of_unescape? {cs rest : List Char} {c : Char}
    (h : unescape? cs = some (c, rest)) : rest.length < cs.length := by
  cases cs with
  | nil => simp [unescape?] at h
  | cons d ds =>
    rw [List.length_cons, Nat.lt_succ_iff]
    simp only [unescape?] at h
    split at h
    · simp only [Option.some.injEq, Prod.mk.injEq] at h
      exact Nat.le_of_eq (congrArg List.length h.2.symm)
    · split at h
      · exact length_of_codePoint? h
      · split at h
        · exact length_of_codePoint? h
        · simp at h

/-- The rest of a basic text of one line, behind its opening quote. -/
def basicTail? (cs : List Char) : Option (List Char × List Char) :=
  match cs with
  | [] => none
  | c :: rest =>
    if c = '"' then some ([], rest)
    else if c = '\\' then
      match _ : unescape? rest with
      | none => none
      | some (e, rest') => (basicTail? rest').map fun (s, r) => (e :: s, r)
    else if isTextChar c then (basicTail? rest).map fun (s, r) => (c :: s, r)
    else none
termination_by cs.length
decreasing_by
  · have := length_of_unescape? ‹unescape? _ = _›
    simp only [List.length_cons]
    omega
  · exact Nat.lt_succ_self _

/-- The rest of a literal text of one line, behind its opening apostrophe. -/
def literalTail? : List Char → Option (List Char × List Char)
  | [] => none
  | c :: rest =>
    if c = '\x27' then some ([], rest)
    else if isTextChar c then (literalTail? rest).map fun (s, r) => (c :: s, r)
    else none

/-- The closing quotes of a text of several lines: three, with at most two before them that belong
to the text. -/
def closing? (q : Char) : List Char → Option (List Char × List Char)
  | a :: b :: c :: rest =>
    if a = q ∧ b = q ∧ c = q then
      match rest with
      | d :: e :: rest' =>
        if d = q then if e = q then some ([q, q], rest') else some ([q], e :: rest')
        else some ([], rest)
      | [d] => if d = q then some ([q], []) else some ([], rest)
      | [] => some ([], [])
    else none
  | _ => none

/-- The text behind any blanks and line breaks. -/
def skipBlankLines : List Char → List Char
  | [] => []
  | '\r' :: '\n' :: rest => skipBlankLines rest
  | c :: rest => if isBlank c || c = '\n' then skipBlankLines rest else c :: rest

theorem length_skipBlankLines_le (cs : List Char) : (skipBlankLines cs).length ≤ cs.length := by
  fun_induction skipBlankLines cs with
  | case1 => exact Nat.le_refl _
  | case2 rest ih =>
    simp only [List.length_cons]
    omega
  | case3 c rest _ _ ih =>
    simp only [List.length_cons]
    omega
  | case4 => exact Nat.le_refl _

/-- What follows a backslash that joins two lines, read behind the backslash. -/
def lineJoin? (cs : List Char) : Option (List Char) :=
  (newline? (cs.dropWhile isBlank)).map skipBlankLines

theorem length_of_lineJoin? {cs rest : List Char} (h : lineJoin? cs = some rest) :
    rest.length < cs.length := by
  obtain ⟨mid, hmid, rfl⟩ := Option.map_eq_some_iff.1 h
  have h1 := length_of_newline? hmid
  have h2 := length_skipBlankLines_le mid
  have h3 := (List.dropWhile_suffix isBlank (l := cs)).length_le
  omega

/-- The rest of a basic text of several lines, behind its opening quotes and the line break that may
follow them. -/
def multiBasicTail? (cs : List Char) : Option (List Char × List Char) :=
  match cs with
  | [] => none
  | c :: rest =>
    if c = '"' then
      match closing? '"' (c :: rest) with
      | some found => some found
      | none => (multiBasicTail? rest).map fun (s, r) => (c :: s, r)
    else if c = '\\' then
      match _ : lineJoin? rest with
      | some rest' => multiBasicTail? rest'
      | none =>
        match _ : unescape? rest with
        | none => none
        | some (e, rest') => (multiBasicTail? rest').map fun (s, r) => (e :: s, r)
    else if c = '\n' then (multiBasicTail? rest).map fun (s, r) => (c :: s, r)
    else if c = '\r' then
      match rest with
      | '\n' :: rest' => (multiBasicTail? rest').map fun (s, r) => ('\n' :: s, r)
      | _ => none
    else if isTextChar c then (multiBasicTail? rest).map fun (s, r) => (c :: s, r)
    else none
termination_by cs.length
decreasing_by
  · exact Nat.lt_succ_self _
  · have := length_of_lineJoin? ‹lineJoin? _ = _›
    simp only [List.length_cons]
    omega
  · have := length_of_unescape? ‹unescape? _ = _›
    simp only [List.length_cons]
    omega
  · exact Nat.lt_succ_self _
  · simp only [List.length_cons]
    omega
  · exact Nat.lt_succ_self _

/-- The rest of a literal text of several lines, behind its opening quotes and the line break that
may follow them. -/
def multiLiteralTail? : List Char → Option (List Char × List Char)
  | [] => none
  | '\r' :: '\n' :: rest => (multiLiteralTail? rest).map fun (s, r) => ('\n' :: s, r)
  | c :: rest =>
    if c = '\x27' then
      match closing? '\x27' (c :: rest) with
      | some found => some found
      | none => (multiLiteralTail? rest).map fun (s, r) => (c :: s, r)
    else if c = '\n' || isTextChar c then (multiLiteralTail? rest).map fun (s, r) => (c :: s, r)
    else none

/-- What follows three of a kind of quote at the start of the text. -/
def tripled? (q : Char) : List Char → Option (List Char)
  | a :: b :: c :: rest => if a = q ∧ b = q ∧ c = q then some rest else none
  | _ => none

/-- The text at the start of the characters, in any of the four forms. -/
def text? (cs : List Char) : Option (List Char × List Char) :=
  match tripled? '"' cs with
  | some rest => multiBasicTail? (skipNewline rest)
  | none =>
    match tripled? '\x27' cs with
    | some rest => multiLiteralTail? (skipNewline rest)
    | none =>
      match cs with
      | [] => none
      | c :: rest =>
        if c = '"' then basicTail? rest else if c = '\x27' then literalTail? rest else none

end HostOverlay.Toml
