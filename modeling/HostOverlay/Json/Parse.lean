import HostOverlay.Json.Basic
import HostOverlay.Text.Digit

/-!
# Reading JSON text

`Json.parse?` reads one value, with blanks around it, and is `none` for every other text.  The
readers below it take a list of characters and give back what they read with the characters that are
left.  Values nest, so their readers carry a bound on the depth; the length of the text is always
enough.
-/

set_option autoImplicit false

namespace HostOverlay.Json

/-- The characters that may stand between the parts of a JSON text. -/
def isBlank (c : Char) : Bool :=
  c = ' ' || c = '\t' || c = '\n' || c = '\r'

/-- The text from its first character on that is no blank. -/
def skipBlanks (cs : List Char) : List Char :=
  cs.dropWhile isBlank

/-- What follows `word` at the start of the text. -/
def expect? : List Char → List Char → Option (List Char)
  | [], cs => some cs
  | w :: ws, c :: cs => if w = c then expect? ws cs else none
  | _ :: _, [] => none

/-! ## Strings -/

/-- The value of four hexadecimal digits. -/
def hexWord? (a b c d : Char) : Option Nat :=
  Text.number? 16 [a, b, c, d]

/-- The character that a one-letter escape stands for. -/
def escaped? (c : Char) : Option Char :=
  match c with
  | '"' => some '"'
  | '\\' => some '\\'
  | '/' => some '/'
  | 'b' => some '\x08'
  | 'f' => some '\x0c'
  | 'n' => some '\n'
  | 'r' => some '\r'
  | 't' => some '\t'
  | _ => none

/-- Is `n` the first half of a pair of surrogates? -/
def isHighSurrogate (n : Nat) : Bool := 0xD800 ≤ n && n < 0xDC00

/-- Is `n` the second half of a pair of surrogates? -/
def isLowSurrogate (n : Nat) : Bool := 0xDC00 ≤ n && n < 0xE000

/-- The rest of a string behind its opening quote. -/
def stringTail? : List Char → Option (List Char × List Char)
  | [] => none
  | '"' :: rest => some ([], rest)
  | '\\' :: 'u' :: a :: b :: c :: d :: rest =>
    match hexWord? a b c d with
    | none => none
    | some high =>
      if isHighSurrogate high then
        match rest with
        | '\\' :: 'u' :: e :: f :: g :: h :: rest' =>
          match hexWord? e f g h with
          | none => none
          | some low =>
            if isLowSurrogate low then
              (stringTail? rest').map fun (s, r) =>
                (Char.ofNat (0x10000 + (high - 0xD800) * 0x400 + (low - 0xDC00)) :: s, r)
            else none
        | _ => none
      else if isLowSurrogate high then none
      else (stringTail? rest).map fun (s, r) => (Char.ofNat high :: s, r)
  | '\\' :: c :: rest =>
    match escaped? c with
    | none => none
    | some e => (stringTail? rest).map fun (s, r) => (e :: s, r)
  | c :: rest =>
    if c = '\\' || c.toNat < 0x20 then none
    else (stringTail? rest).map fun (s, r) => (c :: s, r)

/-! ## Numbers -/

/-- The digits at the start of the text, and what follows them. -/
def digits (cs : List Char) : List Nat × List Char :=
  ((cs.takeWhile Text.isDigit).filterMap (Text.digitIn? 10), cs.dropWhile Text.isDigit)

/-- The exponent at the start of the text, if there is one. -/
def exponent? (cs : List Char) : Option (Option Int × List Char) :=
  match cs with
  | c :: rest =>
    if c = 'e' || c = 'E' then
      let (negative, rest) :=
        match rest with
        | '-' :: r => (true, r)
        | '+' :: r => (false, r)
        | r => (false, r)
      match digits rest with
      | ([], _) => none
      | (ds, rest) =>
        let n : Int := Text.ofDigits 10 ds
        some (some (if negative then -n else n), rest)
    else some (none, cs)
  | [] => some (none, [])

/-- The digits behind a decimal point, if there is one. -/
def fraction? (cs : List Char) : Option (Option (List Nat) × List Char) :=
  match cs with
  | '.' :: rest =>
    match digits rest with
    | ([], _) => none
    | (ds, rest) => some (some ds, rest)
  | _ => some (none, cs)

/-- The number at the start of the text. -/
def number? (cs : List Char) : Option (Number × List Char) := do
  let (negative, cs) :=
    match cs with
    | '-' :: rest => (true, rest)
    | cs => (false, cs)
  let (whole, rest) ←
    match digits cs with
    | ([], _) => none
    | (0 :: _ :: _, _) => none
    | r => some r
  let (part, rest) ← fraction? rest
  let (exponent, rest) ← exponent? rest
  return (← Number.ofParts? negative whole part exponent, rest)

/-! ## Values -/

mutual

/-- The value at the start of the text, nested at most `depth` deep. -/
def value? (depth : Nat) (cs : List Char) : Option (Json × List Char) :=
  match depth with
  | 0 => none
  | depth + 1 =>
    match skipBlanks cs with
    | '"' :: rest => (stringTail? rest).map fun (s, r) => (.string (String.ofList s), r)
    | '[' :: rest =>
      match skipBlanks rest with
      | ']' :: r => some (.array [], r)
      | r => (items? depth r).map fun (vs, r) => (.array vs, r)
    | '{' :: rest =>
      match skipBlanks rest with
      | '}' :: r => some (.object [], r)
      | r => (fields? depth r).map fun (fs, r) =>
          (.object (fs.foldl (fun acc (k, v) => insertField k v acc) []), r)
    | 'n' :: rest => (expect? "ull".toList rest).map fun r => (.null, r)
    | 't' :: rest => (expect? "rue".toList rest).map fun r => (.bool true, r)
    | 'f' :: rest => (expect? "alse".toList rest).map fun r => (.bool false, r)
    | cs => (number? cs).map fun (n, r) => (.number n, r)

/-- The elements of an array that has at least one, with the closing bracket. -/
def items? (depth : Nat) (cs : List Char) : Option (List Json × List Char) :=
  match depth with
  | 0 => none
  | depth + 1 =>
    match value? depth cs with
    | none => none
    | some (v, rest) =>
      match skipBlanks rest with
      | ']' :: r => some ([v], r)
      | ',' :: r => (items? depth r).map fun (vs, r) => (v :: vs, r)
      | _ => none

/-- The fields of an object that has at least one, with the closing brace. -/
def fields? (depth : Nat) (cs : List Char) : Option (List (String × Json) × List Char) :=
  match depth with
  | 0 => none
  | depth + 1 =>
    match skipBlanks cs with
    | '"' :: rest =>
      match stringTail? rest with
      | none => none
      | some (k, rest) =>
        match skipBlanks rest with
        | ':' :: rest =>
          match value? depth rest with
          | none => none
          | some (v, rest) =>
            match skipBlanks rest with
            | '}' :: r => some ([(String.ofList k, v)], r)
            | ',' :: r =>
              (fields? depth r).map fun (fs, r) => ((String.ofList k, v) :: fs, r)
            | _ => none
        | _ => none
    | _ => none

end

/-- The value that a text is the JSON of. -/
def parse? (s : String) : Option Json :=
  let cs := s.toList
  match value? (2 * cs.length + 2) cs with
  | some (v, rest) => if (skipBlanks rest).isEmpty then some v else none
  | none => none

end HostOverlay.Json
