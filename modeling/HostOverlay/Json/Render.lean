import HostOverlay.Json.Basic

/-!
# JSON text

`Json.compact` writes a value on one line, `Json.pretty` over several lines with two blanks of
indentation per level.  Within a string the quote, the backslash and the control characters are
escaped and nothing else is.
-/

set_option autoImplicit false

namespace HostOverlay.Json

/-- The small hexadecimal digit of a number below sixteen. -/
def hexDigit (n : Nat) : Char :=
  (Nat.digitChar n)

/-- A character as it stands inside a JSON string. -/
def escapeChar (c : Char) : List Char :=
  if c = '"' then ['\\', '"']
  else if c = '\\' then ['\\', '\\']
  else if c = '\x08' then ['\\', 'b']
  else if c = '\x0c' then ['\\', 'f']
  else if c = '\n' then ['\\', 'n']
  else if c = '\r' then ['\\', 'r']
  else if c = '\t' then ['\\', 't']
  else if c.toNat < 0x20 then
    ['\\', 'u', '0', '0', hexDigit (c.toNat / 16), hexDigit (c.toNat % 16)]
  else [c]

/-- A text in quotes, escaped. -/
def quote (s : String) : String :=
  String.ofList ('"' :: (s.toList.flatMap escapeChar ++ ['"']))

mutual

/-- A value on one line. -/
def compact : Json → String
  | .null => "null"
  | .bool b => if b then "true" else "false"
  | .number n => n.text
  | .string s => quote s
  | .array items => "[" ++ String.intercalate "," (compactItems items) ++ "]"
  | .object fields => "\x7b" ++ String.intercalate "," (compactFields fields) ++ "\x7d"

/-- The texts of the elements of an array. -/
def compactItems : List Json → List String
  | [] => []
  | v :: rest => compact v :: compactItems rest

/-- The texts of the fields of an object. -/
def compactFields : List (String × Json) → List String
  | [] => []
  | (k, v) :: rest => (quote k ++ ":" ++ compact v) :: compactFields rest

end

/-- The line break and indentation in front of what stands at depth `n`. -/
def newline (n : Nat) : String :=
  "\n" ++ String.ofList (List.replicate (2 * n) ' ')

/-- Lines between brackets, one level deeper than the brackets. -/
def enclose (opening closing : String) (depth : Nat) : List String → String
  | [] => opening ++ closing
  | items =>
    opening ++ newline (depth + 1) ++ String.intercalate ("," ++ newline (depth + 1)) items
      ++ newline depth ++ closing

mutual

/-- A value over several lines, written at depth `n`. -/
def prettyAt (n : Nat) : Json → String
  | .array items => enclose "[" "]" n (prettyItems (n + 1) items)
  | .object fields => enclose "\x7b" "\x7d" n (prettyFields (n + 1) fields)
  | .null => "null"
  | .bool b => if b then "true" else "false"
  | .number m => m.text
  | .string s => quote s

/-- The texts of the elements of an array, at depth `n`. -/
def prettyItems (n : Nat) : List Json → List String
  | [] => []
  | v :: rest => prettyAt n v :: prettyItems n rest

/-- The texts of the fields of an object, at depth `n`. -/
def prettyFields (n : Nat) : List (String × Json) → List String
  | [] => []
  | (k, v) :: rest => (quote k ++ ": " ++ prettyAt n v) :: prettyFields n rest

end

/-- A value over several lines. -/
def pretty (v : Json) : String := prettyAt 0 v

end HostOverlay.Json
