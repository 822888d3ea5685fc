import HostOverlay.Json.Basic
import HostOverlay.Text.Quoted

/-!
# Decoding JSON values

A decoder takes a JSON value to a value of some type, or says why it cannot.  The reasons are the
constructors of `DecodeError`; their wording is in `DecodeError.message` and nowhere else.

* **Records** are written as objects with one field per name.  Unknown names are skipped; fields are
  read in the order in which the object holds them, and only then are missing ones noticed.  A
  record may also be written as the array of its fields in declaration order.
* **Choices** among a fixed set of names are written as the name, or as an object with the name as
  its only key and `null` as its value.
-/

set_option autoImplicit false

namespace HostOverlay

/-- What a decoder asks for. -/
inductive Expected where
  | text
  | boolean
  | position
  | sequence
  /-- A record of the given type name. -/
  | record (name : String)
  /-- A record of the given type name, written as the array of its fields. -/
  | positional (name : String) (fields : Nat)
  /-- The end of an array. -/
  | noMoreElements
  /-- One of a fixed set of names. -/
  | choice
  /-- An object with exactly one key. -/
  | singleKey
  /-- The value of a choice that is written as an object. -/
  | unit
  deriving DecidableEq, Repr, Inhabited

/-- How what is asked for is named in a message. -/
def Expected.phrase : Expected → String
  | .text => "a string"
  | .boolean => "a boolean"
  | .position => "usize"
  | .sequence => "a sequence"
  | .record name => "struct " ++ name
  | .positional name fields =>
    "struct " ++ name ++ " with " ++ toString fields
      ++ (if fields = 1 then " element" else " elements")
  | .noMoreElements => "fewer elements in array"
  | .choice => "string or map"
  | .singleKey => "map with a single key"
  | .unit => "unit"

/-- What a decoder found instead. -/
inductive Found where
  | null
  | bool (b : Bool)
  | number (n : Json.Number)
  | string (s : String)
  | sequence
  | map
  deriving DecidableEq, Repr, Inhabited

namespace Found

/-- The kind of a JSON value, with its content where that is short. -/
def ofJson : Json → Found
  | .null => .null
  | .bool b => .bool b
  | .number n => .number n
  | .string s => .string s
  | .array _ => .sequence
  | .object _ => .map

/-- How what was found is named in a message. -/
def phrase : Found → String
  | .null => "null"
  | .bool b => "boolean `" ++ (if b then "true" else "false") ++ "`"
  | .number (.integer i) => "integer `" ++ toString i ++ "`"
  | .number n => "floating point `" ++ n.text ++ "`"
  | .string s => "string " ++ Text.quoted s
  | .sequence => "sequence"
  | .map => "map"

end Found

/-- Why a JSON value could not be decoded. -/
inductive DecodeError where
  /-- The value is of another kind than asked for. -/
  | invalidType (found : Found) (expected : Expected)
  /-- The value is of the right kind but not one of those asked for. -/
  | invalidValue (found : Found) (expected : Expected)
  /-- An array has too few or too many elements. -/
  | invalidLength (length : Nat) (expected : Expected)
  /-- A name is not in the set to choose from. -/
  | unknownVariant (name : String) (variants : List String)
  | missingField (name : String)
  | duplicateField (name : String)
  deriving DecidableEq, Repr, Inhabited

namespace DecodeError

/-- A name as it is set off in a message. -/
def mark (name : String) : String := "`" ++ name ++ "`"

/-- The wording of a decoding error. -/
def message : DecodeError → String
  | .invalidType found expected =>
    "invalid type: " ++ found.phrase ++ ", expected " ++ expected.phrase
  | .invalidValue found expected =>
    "invalid value: " ++ found.phrase ++ ", expected " ++ expected.phrase
  | .invalidLength n expected =>
    "invalid length " ++ toString n ++ ", expected " ++ expected.phrase
  | .unknownVariant name variants =>
    "unknown variant " ++ mark name ++ ", expected one of "
      ++ String.intercalate ", " (variants.map mark)
  | .missingField name => "missing field " ++ mark name
  | .duplicateField name => "duplicate field " ++ mark name

end DecodeError

/-- A way to read values of type `α`. -/
abbrev Decoder (α : Type) := Json → Except DecodeError α

namespace Decoder

variable {α β σ : Type}

/-! ## Plain values -/

/-- The value is of another kind than asked for. -/
def mismatch (v : Json) (expected : Expected) : Except DecodeError α :=
  .error (.invalidType (.ofJson v) expected)

/-- A text. -/
def text : Decoder String
  | .string s => .ok s
  | v => mismatch v .text

/-- A truth value. -/
def boolean : Decoder Bool
  | .bool b => .ok b
  | v => mismatch v .boolean

/-- A place in a text, or a length: an integer that is not negative. -/
def position : Decoder Nat
  | .number (.integer (.ofNat n)) => .ok n
  | .number (.integer (.negSucc n)) =>
    .error (.invalidValue (.number (.integer (.negSucc n))) .position)
  | v => mismatch v .position

/-- A list of values, each read by `item`; the first that fails decides. -/
def list (item : Decoder α) : Decoder (List α)
  | .array items => items.mapM item
  | v => mismatch v .sequence

/-- A value that may be `null`. -/
def optional (item : Decoder α) : Decoder (Option α)
  | .null => .ok none
  | v => (item v).map some

/-! ## Choices -/

/-- The member of `all` that has the given name. -/
def named (all : List α) (name : α → String) (n : String) : Except DecodeError α :=
  match all.find? fun a => name a = n with
  | some a => .ok a
  | none => .error (.unknownVariant n (all.map name))

/-- One of the values in `all`, by its name. -/
def choice (all : List α) (name : α → String) : Decoder α
  | .string n => named all name n
  | .object [(n, v)] => do
    let a ← named all name n
    match v with
    | .null => .ok a
    | v => mismatch v .unit
  | .object fields => .error (.invalidValue (.ofJson (.object fields)) .singleKey)
  | v => mismatch v .choice

/-! ## Records -/

/-- One field of a record: its name, how its value is put into the fields read so far, whether it is
there already, and whether it may be left out of the positional form. -/
structure Field (σ : Type) where
  name : String
  read : Json → σ → Except DecodeError σ
  isRead : σ → Bool
  isOptional : Bool

/-- Read the fields of an object, in the order in which the object holds them. -/
def readFields (fields : List (Field σ)) : List (String × Json) → σ → Except DecodeError σ
  | [], s => .ok s
  | (k, v) :: rest, s =>
    match fields.find? fun f => f.name = k with
    | none => readFields fields rest s
    | some f =>
      if f.isRead s then .error (.duplicateField k)
      else do readFields fields rest (← f.read v s)

/-- Read the elements of an array as the fields of a record in declaration order; `n` fields have
been read before. -/
def readElements (type : String) (count : Nat) (total : Nat) :
    List (Field σ) → List Json → Nat → σ → Except DecodeError σ
  | [], [], _, s => .ok s
  | [], _ :: _, _, _ => .error (.invalidLength total .noMoreElements)
  | f :: fields, [], n, s =>
    if f.isOptional then readElements type count total fields [] (n + 1) s
    else .error (.invalidLength n (.positional type count))
  | f :: fields, v :: rest, n, s => do
    readElements type count total fields rest (n + 1) (← f.read v s)

/-- A record of the type named `type`: `start` holds no field, `finish` makes the record of the
fields read, or names one that is missing. -/
def record (type : String) (fields : List (Field σ)) (start : σ)
    (finish : σ → Except DecodeError α) : Decoder α
  | .object entries => do finish (← readFields fields entries start)
  | .array items => do
    finish (← readElements type fields.length items.length fields items 0 start)
  | v => mismatch v (.record type)

/-- The value of a field that has to be there. -/
def require (name : String) : Option α → Except DecodeError α
  | some a => .ok a
  | none => .error (.missingField name)

end Decoder

end HostOverlay
