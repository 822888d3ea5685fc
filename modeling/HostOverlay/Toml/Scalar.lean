import HostOverlay.Decimal
import HostOverlay.Text.Digit
import HostOverlay.Toml.Basic

/-!
# Numbers, dates and other plain values in TOML

Each reader takes a list of characters and gives back what it reads at their start, with the
characters that are left.

* Underscores may stand between two digits.  An integer has no needless zero in front and fits into
  64 bits; one with a base has no sign.
* A float has a point or an exponent, and may not be too large for a float.
* A date exists in the calendar; a time has its seconds, of which a minute may have sixty-one.
-/

set_option autoImplicit false

namespace HostOverlay.Toml

open Text (digitIn? ofDigits isDigit number?)

/-- What follows the character `c` at the start of the text. -/
def expect? (c : Char) : List Char → Option (List Char)
  | d :: rest => if d = c then some rest else none
  | [] => none

/-- What follows one of the characters `cs` at the start of the text. -/
def expectAny? (cs : List Char) : List Char → Option (List Char)
  | d :: rest => if cs.contains d then some rest else none
  | [] => none

/-- What follows a word at the start of the text. -/
def expectWord? (word : String) (cs : List Char) : Option (List Char) :=
  word.toList.foldlM (fun rest c => expect? c rest) cs

/-- The text without a sign at its start, and whether that is a minus. -/
def sign : List Char → Bool × List Char
  | c :: rest =>
    if c = '-' then (true, rest) else if c = '+' then (false, rest) else (false, c :: rest)
  | [] => (false, [])

/-! ## Digits -/

/-- More digits, each of which may follow an underscore. -/
def moreDigits? (base : Nat) : List Char → Option (List Nat × List Char)
  | [] => some ([], [])
  | '_' :: c :: rest =>
    match digitIn? base c with
    | some d => (moreDigits? base rest).map fun (ds, r) => (d :: ds, r)
    | none => none
  | c :: rest =>
    match digitIn? base c with
    | some d => (moreDigits? base rest).map fun (ds, r) => (d :: ds, r)
    | none => if c = '_' then none else some ([], c :: rest)

/-- At least one digit. -/
def digits? (base : Nat) : List Char → Option (List Nat × List Char)
  | [] => none
  | c :: rest => do
    let d ← digitIn? base c
    let (ds, rest) ← moreDigits? base rest
    return (d :: ds, rest)

/-- Decimal digits without a needless zero in front. -/
def wholeDigits? : List Char → Option (List Nat × List Char)
  | '0' :: rest => some ([0], rest)
  | cs => digits? 10 cs

/-! ## Numbers -/

/-- The least number that needs more than 63 bits. -/
def integerBound : Nat := 0x8000000000000000

/-- An integer with the given mark of its base. -/
def based? (mark : String) (base : Nat) (cs : List Char) : Option (Value × List Char) := do
  let (ds, rest) ← digits? base (← expectWord? mark cs)
  let n := ofDigits base ds
  if n < integerBound then some (.integer n, rest) else none

/-- A decimal integer. -/
def decimal? (cs : List Char) : Option (Value × List Char) := do
  let (negative, rest) := sign cs
  let (ds, rest) ← wholeDigits? rest
  let n := ofDigits 10 ds
  if negative then if n ≤ integerBound then some (.integer (-n), rest) else none
  else if n < integerBound then some (.integer n, rest)
  else none

/-- An integer. -/
def integer? (cs : List Char) : Option (Value × List Char) :=
  (based? "0x" 16 cs).or ((based? "0o" 8 cs).or ((based? "0b" 2 cs).or (decimal? cs)))

/-- The digits behind a point. -/
def fraction? (cs : List Char) : Option (List Nat × List Char) := do
  digits? 10 (← expect? '.' cs)

/-- The exponent of a float. -/
def exponent? (cs : List Char) : Option (Int × List Char) := do
  let (negative, rest) := sign (← expectAny? ['e', 'E'] cs)
  let (ds, rest) ← digits? 10 rest
  let n : Int := ofDigits 10 ds
  return (if negative then -n else n, rest)

/-- What the text has lost when `rest` is left of it. -/
def consumed (cs rest : List Char) : String :=
  String.ofList (cs.take (cs.length - rest.length))

/-- A float with digits. -/
def finite? (cs : List Char) : Option (Value × List Char) := do
  let (negative, rest) := sign cs
  let (whole, rest) ← wholeDigits? rest
  let (part, exponent, rest) ←
    match exponent? rest with
    | some (e, rest) => some ([], e, rest)
    | none => do
      let (part, rest) ← fraction? rest
      match exponent? rest with
      | some (e, rest) => some (part, e, rest)
      | none => some (part, 0, rest)
  let value : Decimal := ⟨negative, ofDigits 10 (whole ++ part), exponent - part.length⟩
  if value.overflows && !negative then none else some (.float (consumed cs rest), rest)

/-- An infinity, or what is no number. -/
def special? (cs : List Char) : Option (Value × List Char) := do
  let (_, rest) := sign cs
  let rest ← (expectWord? "inf" rest).or (expectWord? "nan" rest)
  return (.float (consumed cs rest), rest)

/-! ## Dates and times -/

/-- A number of `n` digits between two bounds. -/
def field? (n low high : Nat) (cs : List Char) : Option (Nat × List Char) := do
  if cs.length < n then none
  let value ← number? 10 (cs.take n)
  if low ≤ value && value ≤ high then some (value, cs.drop n) else none

/-- The number of days in a month. -/
def daysIn (year month : Nat) : Nat :=
  if month = 2 then if year % 4 = 0 ∧ (year % 100 ≠ 0 ∨ year % 400 = 0) then 29 else 28
  else if [4, 6, 9, 11].contains month then 30
  else 31

/-- What follows a date. -/
def date? (cs : List Char) : Option (List Char) := do
  let (year, cs) ← field? 4 0 9999 cs
  let (month, cs) ← field? 2 1 12 (← expect? '-' cs)
  let (_, cs) ← field? 2 1 (daysIn year month) (← expect? '-' cs)
  return cs

/-- What follows the hours and minutes of a time. -/
def hoursMinutes? (cs : List Char) : Option (List Char) := do
  let (_, cs) ← field? 2 0 23 cs
  let (_, cs) ← field? 2 0 59 (← expect? ':' cs)
  return cs

/-- What follows the fraction of a second, which may be missing. -/
def skipSecondFraction (cs : List Char) : List Char :=
  match cs with
  | '.' :: c :: rest => if isDigit c then rest.dropWhile isDigit else cs
  | _ => cs

/-- What follows a time of day. -/
def time? (cs : List Char) : Option (List Char) := do
  let (_, cs) ← field? 2 0 60 (← expect? ':' (← hoursMinutes? cs))
  return skipSecondFraction cs

/-- What follows the offset of a time. -/
def offset? (cs : List Char) : Option (List Char) :=
  (expectAny? ['Z', 'z'] cs).or (expectAny? ['+', '-'] cs >>= hoursMinutes?)

/-- What follows the time behind a date, with its offset. -/
def timeOfDate? (cs : List Char) : Option (List Char) := do
  let rest ← time? (← expectAny? ['T', 't', ' '] cs)
  return (offset? rest).getD rest

/-- A date, a time or both. -/
def moment? (cs : List Char) : Option (Value × List Char) := do
  let rest ←
    match date? cs with
    | some rest => some ((timeOfDate? rest).getD rest)
    | none => time? cs
  return (.moment (consumed cs rest), rest)

/-! ## All of them -/

/-- A value that is neither a text nor holds others. -/
def scalar? (cs : List Char) : Option (Value × List Char) :=
  ((expectWord? "true" cs).map fun rest => (.boolean true, rest)).or <|
  ((expectWord? "false" cs).map fun rest => (.boolean false, rest)).or <|
  (moment? cs).or <| (finite? cs).or <| (special? cs).or <| integer? cs

end HostOverlay.Toml
