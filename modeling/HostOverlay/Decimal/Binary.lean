import HostOverlay.Decimal

/-!
# Double-precision floats

A float that is not negative is `significand · 2 ^ exponent`, with a significand of 53 bits at most
and an exponent that is bounded below.  Everything here is exact arithmetic on natural numbers:

* `Binary.nearest` rounds a ratio to a float, a tie to the even significand;
* `Binary.mul` and `Binary.div` are the exact product and quotient, rounded;
* `Binary.shortest` is the **shortest decimal that reads back as the float**: it takes the first of
  ever finer decimal grids that has a point in the interval of numbers which round to the float.
-/

set_option autoImplicit false

namespace HostOverlay

/-- The float `significand · 2 ^ exponent`. -/
structure Binary where
  significand : Nat
  exponent : Int
  deriving DecidableEq, Repr, Inhabited

namespace Binary

/-- The least significand of a float above the smallest ones. -/
def leastNormal : Nat := 0x10000000000000

/-- The least exponent of a float. -/
def leastExponent : Int := -1074

/-- The ratio that a float is. -/
def value (b : Binary) : Ratio := Ratio.scaled b.significand 2 b.exponent

/-! ## Rounding -/

/-- The float nearest to a ratio; exponents are not bounded above. -/
def nearest (r : Ratio) : Binary :=
  let guess : Int := (Nat.log2 r.num : Int) - Nat.log2 r.den - 53
  let attempt (e : Int) : Nat := (r.div (Ratio.scaled 1 2 e)).round
  let candidates := [guess, guess + 1, guess + 2].map fun e => max e leastExponent
  match candidates.find? fun e => attempt e ≤ 2 * leastNormal with
  | some e =>
    if attempt e = 2 * leastNormal then ⟨leastNormal, e + 1⟩ else ⟨attempt e, e⟩
  | none => ⟨attempt (guess + 3), guess + 3⟩

/-- The float nearest to a natural number. -/
def ofNat (n : Nat) : Binary := nearest ⟨n, 1⟩

/-- The float nearest to a power of ten. -/
def powerOfTen (n : Nat) : Binary := ofNat (Nat.pow 10 n)

/-- The product of two floats, rounded. -/
def mul (a b : Binary) : Binary := nearest (a.value.mul b.value)

/-- The quotient of two floats, rounded. -/
def div (a b : Binary) : Binary := nearest (a.value.div b.value)

/-- Is the float zero? -/
def isZero (b : Binary) : Bool := b.significand = 0

/-- Is the float larger than the largest one that can be held? -/
def isInfinite (b : Binary) : Bool :=
  let r := b.value
  Nat.pow 2 1024 * r.den ≤ r.num

/-! ## The shortest decimal -/

/-- The numbers that round to `b`, in quarters of its last place. -/
def interval (b : Binary) : Nat × Nat :=
  let below := if b.significand = leastNormal ∧ leastExponent < b.exponent then 1 else 2
  (4 * b.significand - below, 4 * b.significand + 2)

/-- Does `digits · 10 ^ exponent` round to `b`? -/
def isReadBack (b : Binary) (digits : Nat) (exponent : Int) : Bool :=
  let point := Ratio.scaled digits 10 exponent
  let unit := Ratio.scaled 1 2 (b.exponent - 2)
  let position := point.num * unit.den
  let (low, high) := b.interval
  let lowest := low * unit.num * point.den
  let highest := high * unit.num * point.den
  if b.significand % 2 = 0 then lowest ≤ position && position ≤ highest
  else lowest < position && position < highest

/-- Of the two neighbours of `b` on the grid of multiples of `10 ^ exponent`, the nearest one that
rounds to `b`; of two that are equally near the even one. -/
def onGrid (b : Binary) (exponent : Int) : Option Nat :=
  let steps := b.value.div (Ratio.scaled 1 10 exponent)
  let down := steps.num / steps.den
  let neighbours := if steps.round = down then [down, down + 1] else [down + 1, down]
  neighbours.find? fun d => d ≠ 0 && b.isReadBack d exponent

/-- Remove zeros at the end of the digits, at most `fuel` of them. -/
def trimZeros : Nat → Nat → Int → Nat × Int
  | 0, digits, exponent => (digits, exponent)
  | fuel + 1, digits, exponent =>
    if digits ≠ 0 ∧ digits % 10 = 0 then trimZeros fuel (digits / 10) (exponent + 1)
    else (digits, exponent)

/-- The exponents of decimal grids from one that is coarser than `b` to one that is as fine as
floats ever need. -/
def grids (b : Binary) : List Int :=
  let size := ((Nat.log2 b.significand : Int) + b.exponent) * 30103 / 100000 + 2
  (List.range 21).map fun (n : Nat) => size - (n : Int)

/-- The shortest decimal that reads back as the float, with the given sign. -/
def shortest (negative : Bool) (b : Binary) : Decimal :=
  if b.isZero then ⟨negative, 0, 0⟩
  else match b.grids.findSome? fun e => (b.onGrid e).map fun digits => (digits, e) with
  | some (digits, e) =>
    let (digits, e) := trimZeros 20 digits e
    ⟨negative, digits, e⟩
  | none => ⟨negative, 0, 0⟩

end Binary

end HostOverlay
