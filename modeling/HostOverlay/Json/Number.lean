import HostOverlay.Decimal.Binary

/-!
# Numbers in JSON

A number is an integer of 64 bits, or a double-precision float, which is held as the shortest
decimal that reads back as it.

A float is read in two steps, each of which rounds.  The digits make up a **significand** of 64
bits: a digit that would make it larger than that is left out with all digits behind it, and those
of them that stand before the point raise the power of ten.  The significand as a float is then
multiplied with, or divided by, the power of ten as a float.  The result can therefore differ from
the float that is nearest to the number as written.
-/

set_option autoImplicit false

namespace HostOverlay.Json

/-- A number: an integer, or one that was written with a point or an exponent. -/
inductive Number where
  | integer (i : Int)
  | decimal (d : Decimal)
  deriving DecidableEq, Repr, Inhabited

namespace Number

/-! ## Reading -/

/-- The first number that does not fit into 64 bits. -/
def wordLimit : Nat := 0x10000000000000000

/-- The largest power of ten that floats have. -/
def maxPower : Nat := 308

/-- Put digits behind a significand as long as it fits into 64 bits; also the number of digits that
were left out. -/
def gather : Nat → List Nat → Nat × Nat
  | n, [] => (n, 0)
  | n, d :: ds =>
    if n * 10 + d < wordLimit then gather (n * 10 + d) ds else (n, (d :: ds).length)

/-- The float `b · 10 ^ exponent`, where the power of ten is a float itself; `none` when it is too
large to be held.  A power below the least one is reached in several steps. -/
def scale? (b : Binary) (exponent : Int) : Option Binary :=
  if 0 ≤ exponent then
    if exponent ≤ maxPower then
      let product := b.mul (.powerOfTen exponent.toNat)
      if product.isInfinite then none else some product
    else if b.isZero then some b
    else none
  else if -maxPower ≤ exponent then some (b.div (.powerOfTen (-exponent).toNat))
  else if b.isZero then some b
  else scale? (b.div (.powerOfTen maxPower)) (exponent + maxPower)
termination_by (-exponent).toNat
decreasing_by
  simp only [maxPower] at *
  omega

/-- The float with the given significand and power of ten. -/
def float? (negative : Bool) (significand : Nat) (exponent : Int) : Option Number :=
  (scale? (.ofNat significand) exponent).map fun b => .decimal (b.shortest negative)

/-- The number with the given sign, digits before the point, digits behind it and exponent.  An
integer that needs more than 64 bits and a negative zero are held as floats. -/
def ofParts? (negative : Bool) (whole : List Nat) (part : Option (List Nat))
    (exponent : Option Int) : Option Number :=
  let (n, leftOut) := gather 0 whole
  match part, exponent with
  | none, none =>
    if 0 < leftOut then float? negative n leftOut
    else if !negative then some (.integer n)
    else if 0 < n ∧ n ≤ 0x8000000000000000 then some (.integer (-n))
    else float? true n 0
  | _, _ =>
    let ds := part.getD []
    let (n, dropped) := gather n ds
    float? negative n (exponent.getD 0 + leftOut - (ds.length - dropped : Nat))

/-! ## Writing -/

/-- The text of a number.  A float is written out in full when its point stands among its digits or
close to them, else with a power of ten. -/
def text : Number → String
  | .integer i => toString i
  | .decimal d =>
    if d.digits = 0 ∨ (-5 < d.point ∧ d.point ≤ 16) then d.text else d.powerText

end Number

end HostOverlay.Json
