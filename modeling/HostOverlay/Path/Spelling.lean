import HostOverlay.Path.Basic

/-!
# Names that are no text

On a disk a name is a row of bytes, any but NUL and a slash, and a path is names with slashes
between them.  Here both are written as texts.  What is valid UTF-8 in a row of bytes is written as
it is.  A byte that is no part of that is **escaped**: it is written as a NUL, which no name has in
it, and the character with the number of the byte.

* `letters` reads what is written, and `bytes` are the bytes that it stands for.
* `shown` is the text that is made of them where a text is needed.  Bytes that are no part of one
  become replacement characters, so that different names can be shown alike.
-/

set_option autoImplicit false

namespace HostOverlay.Path

/-! ## Letters -/

/-- A piece of a written path. -/
inductive Letter where
  | char (c : Char)
  /-- A byte that is no part of a text. -/
  | byte (b : UInt8)
  deriving DecidableEq, Repr, Inhabited

/-- The byte that two characters stand for, if they are an escape. -/
def escape? (c d : Char) : Option UInt8 :=
  if c = '\x00' && 0x80 ≤ d.toNat && d.toNat ≤ 0xFF then some (UInt8.ofNat d.toNat) else none

/-- The letters of a written path. -/
def letters : List Char → List Letter
  | [] => []
  | [c] => [.char c]
  | c :: d :: rest =>
    match escape? c d with
    | some b => .byte b :: letters rest
    | none => .char c :: letters (d :: rest)

/-- The bytes of a letter. -/
def Letter.bytes : Letter → List UInt8
  | .char c => String.utf8EncodeChar c
  | .byte b => [b]

/-- The bytes that a written path stands for. -/
def bytes (p : String) : List UInt8 := (letters p.toList).flatMap Letter.bytes

/-- The number of these bytes. -/
def size (p : String) : Nat := (bytes p).length

/-! ## Showing -/

/-- The ranges of the bytes that belong behind `b` when a character begins with it. -/
def continuations (b : UInt8) : List (UInt8 × UInt8) :=
  if b < 0xC2 || 0xF4 < b then []
  else if b < 0xE0 then [(0x80, 0xBF)]
  else if b = 0xE0 then [(0xA0, 0xBF), (0x80, 0xBF)]
  else if b = 0xED then [(0x80, 0x9F), (0x80, 0xBF)]
  else if b < 0xF0 then [(0x80, 0xBF), (0x80, 0xBF)]
  else if b = 0xF0 then [(0x90, 0xBF), (0x80, 0xBF), (0x80, 0xBF)]
  else if b < 0xF4 then [(0x80, 0xBF), (0x80, 0xBF), (0x80, 0xBF)]
  else [(0x80, 0x8F), (0x80, 0xBF), (0x80, 0xBF)]

/-- The characters that letters are shown as.  The beginning of a character that breaks off is one
replacement character; `expected` are the ranges of the bytes that would go on with it. -/
def replaced : List (UInt8 × UInt8) → List Letter → List Char
  | _, [] => []
  | _, .char c :: rest => c :: replaced [] rest
  | [], .byte b :: rest => '\uFFFD' :: replaced (continuations b) rest
  | (low, high) :: expected, .byte b :: rest =>
    if low ≤ b && b ≤ high then replaced expected rest
    else '\uFFFD' :: replaced (continuations b) rest

/-- The text that a written path is shown as. -/
def shown (p : String) : String :=
  String.ofList (replaced [] (letters p.toList))

end HostOverlay.Path
