/-!
# Decimal numbers

The number `± digits · 10 ^ exponent`, and two ways to write it: `Decimal.text` gives every digit,
`Decimal.powerText` gives the digits with the point behind the first of them and the power of ten
that this leaves out.
-/

set_option autoImplicit false

namespace HostOverlay

/-- The number `± digits · 10 ^ exponent`. -/
structure Decimal where
  negative : Bool
  digits : Nat
  exponent : Int
  deriving DecidableEq, Repr, Inhabited

/-- A ratio of natural numbers. -/
structure Ratio where
  num : Nat
  den : Nat
  deriving DecidableEq, Repr

namespace Ratio

/-- The ratio `digits · base ^ exponent`. -/
def scaled (digits base : Nat) (exponent : Int) : Ratio :=
  if 0 ≤ exponent then ⟨digits * base.pow exponent.toNat, 1⟩
  else ⟨digits, base.pow (-exponent).toNat⟩

/-- The product of two ratios. -/
def mul (r s : Ratio) : Ratio := ⟨r.num * s.num, r.den * s.den⟩

/-- The quotient of two ratios. -/
def div (r s : Ratio) : Ratio := ⟨r.num * s.den, r.den * s.num⟩

/-- The ratio rounded to the nearest natural number, a tie to the even one. -/
def round (r : Ratio) : Nat :=
  let q := r.num / r.den
  let twice := 2 * (r.num % r.den)
  if twice < r.den then q else if r.den < twice then q + 1 else q + q % 2

end Ratio

namespace Decimal

/-- The digits as characters. -/
def digitChars (d : Decimal) : List Char := Nat.toDigits 10 d.digits

/-- Where the decimal point stands, counted from the first digit. -/
def point (d : Decimal) : Int := d.digitChars.length + d.exponent

/-- Is the decimal so large that no double-precision float is near it?  The bound lies half a place
above the largest float. -/
def overflows (d : Decimal) : Bool :=
  if d.digits = 0 ∨ d.point < 0 then false
  else if 400 < d.point then true
  else
    let value := Ratio.scaled d.digits 10 d.exponent
    (Nat.pow 2 1024 - Nat.pow 2 970) * value.den ≤ value.num

/-- The mark in front of a negative number. -/
def sign (d : Decimal) : String := if d.negative then "-" else ""

/-- The digits written out in full, with a point and at least one digit on either side of it. -/
def text (d : Decimal) : String :=
  if 0 ≤ d.exponent then
    let zeros := if d.digits = 0 then [] else List.replicate d.exponent.toNat '0'
    d.sign ++ String.ofList (d.digitChars ++ zeros) ++ ".0"
  else
    let places := (-d.exponent).toNat
    let padded := List.replicate (places + 1 - d.digitChars.length) '0' ++ d.digitChars
    let whole := padded.take (padded.length - places)
    let part := padded.drop (padded.length - places)
    d.sign ++ String.ofList whole ++ "." ++ String.ofList part

/-- The digits with a point behind the first, if there are more of them, and the power of ten with
its sign. -/
def powerText (d : Decimal) : String :=
  let power := d.point - 1
  let part := d.digitChars.drop 1
  d.sign ++ String.ofList (d.digitChars.take 1)
    ++ (if part.isEmpty then "" else "." ++ String.ofList part)
    ++ "e" ++ (if power < 0 then "-" else "+") ++ toString power.natAbs

end Decimal

end HostOverlay
