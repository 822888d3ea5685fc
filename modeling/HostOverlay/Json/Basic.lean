import HostOverlay.Json.Number

/-!
# JSON values

The values that a host and this layer exchange, and that a project's configuration gives.  An object
is a list of named values; the reader of JSON text keeps it in the order of its names and drops all
but the last value of a repeated name.
-/

set_option autoImplicit false

namespace HostOverlay

/-- A JSON value. -/
inductive Json where
  | null
  | bool (b : Bool)
  | number (n : Json.Number)
  | string (s : String)
  | array (items : List Json)
  | object (fields : List (String × Json))
  deriving Repr, Inhabited

namespace Json

/-- The value of a natural number. -/
def ofNat (n : Nat) : Json := .number (.integer n)

/-- The values of a list of texts. -/
def ofStrings (ss : List String) : Json := .array (ss.map .string)

/-- The value of an optional one: `null` when there is none. -/
def ofOption {α : Type} (f : α → Json) : Option α → Json
  | none => .null
  | some a => f a

/-- The value that `fields` gives the name `key`. -/
def lookup (key : String) : List (String × Json) → Option Json
  | [] => none
  | (k, v) :: rest => if k = key then some v else lookup key rest

/-- The value under a name, when the value is an object that has it. -/
def get? (key : String) : Json → Option Json
  | .object fields => lookup key fields
  | _ => none

/-- Give `key` the value `v` in a list of fields that is in the order of its names. -/
def insertField (key : String) (v : Json) : List (String × Json) → List (String × Json)
  | [] => [(key, v)]
  | (k, w) :: rest =>
    if k = key then (key, v) :: rest
    else if key < k then (key, v) :: (k, w) :: rest
    else (k, w) :: insertField key v rest

@[simp] theorem lookup_insertField_self (key : String) (v : Json)
    (fields : List (String × Json)) : lookup key (insertField key v fields) = some v := by
  induction fields with
  | nil => simp [insertField, lookup]
  | cons f rest ih =>
    by_cases h : f.1 = key
    · simp [insertField, lookup, h]
    · by_cases hlt : key < f.1
      · simp [insertField, lookup, h, hlt]
      · simp [insertField, lookup, h, hlt, ih]

/-- Remove a name from a list of fields. -/
def eraseField (key : String) (fields : List (String × Json)) : List (String × Json) :=
  fields.filter fun f => f.1 ≠ key

@[simp] theorem lookup_eraseField_self (key : String) (fields : List (String × Json)) :
    lookup key (eraseField key fields) = none := by
  induction fields with
  | nil => rfl
  | cons f rest ih =>
    by_cases h : f.1 = key
    · simpa [eraseField, h] using ih
    · simpa [eraseField, lookup, h] using ih

theorem lookup_eraseField_of_ne {key other : String} (h : other ≠ key)
    (fields : List (String × Json)) :
    lookup other (eraseField key fields) = lookup other fields := by
  induction fields with
  | nil => rfl
  | cons f rest ih =>
    by_cases hk : f.1 = key
    · simpa [eraseField, lookup, hk, Ne.symm h] using ih
    · have hf : eraseField key (f :: rest) = f :: eraseField key rest := by simp [eraseField, hk]
      rw [hf, lookup, lookup, ih]

end Json

end HostOverlay
