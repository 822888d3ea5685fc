/-!
# Digits

The value of a digit, and of a row of digits, in any base up to sixteen.  Both small and capital
letters are digits above nine.
-/

set_option autoImplicit false

namespace HostOverlay.Text

/-- The value of a digit in a base. -/
def digitIn? (base : Nat) (c : Char) : Option Nat :=
  let value? :=
    if '0' ≤ c ∧ c ≤ '9' then some (c.toNat - '0'.toNat)
    else if 'a' ≤ c ∧ c ≤ 'f' then some (c.toNat - 'a'.toNat + 10)
    else if 'A' ≤ c ∧ c ≤ 'F' then some (c.toNat - 'A'.toNat + 10)
    else none
  value?.filter (· < base)

/-- The number that a row of digits stands for, given the values of the digits. -/
def ofDigits (base : Nat) (ds : List Nat) : Nat :=
  ds.foldl (fun n d => n * base + d) 0

/-- The number that a text of digits stands for, `none` when it has any other character. -/
def number? (base : Nat) (cs : List Char) : Option Nat :=
  (cs.mapM (digitIn? base)).map (ofDigits base)

/-- A digit below ten. -/
def isDigit (c : Char) : Bool := (digitIn? 10 c).isSome

end HostOverlay.Text
