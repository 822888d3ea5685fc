/-!
# TOML values and tables

A table is a list of named values, and a document is a table.  TOML has several ways to say that a
table is there, and they limit what may be added to it later, so each table remembers its
`Origin`: a table between braces is closed, a table that has had its header gets no second one and
cannot be reached by dotted keys, and a table that was only mentioned on the way to another one is
open to both.

Everything a document says goes through two functions: `Entries.within` changes the table that a
path leads to, making the tables on the way, and `Entries.alter` changes the value of one name.
-/

set_option autoImplicit false

namespace HostOverlay.Toml

/-- How a table came to be. -/
inductive Origin where
  /-- It was written between braces. -/
  | braces
  /-- It has a header of its own. -/
  | header
  /-- A longer header mentions it. -/
  | passing
  /-- A dotted key mentions it. -/
  | dotted
  deriving DecidableEq, Repr, Inhabited

/-- A TOML value. -/
inductive Value where
  | text (s : String)
  | integer (i : Int)
  /-- A number with a point or an exponent, an infinity or no number at all, as it is written. -/
  | float (written : String)
  | boolean (b : Bool)
  /-- A date, a time of day or both, as it is written. -/
  | moment (written : String)
  | array (items : List Value)
  | table (origin : Origin) (entries : List (String × Value))
  /-- Tables that share a header in double brackets, in their order. -/
  | tables (items : List (List (String × Value)))
  deriving Repr, Inhabited

/-- The named values of a table. -/
abbrev Entries := List (String × Value)

namespace Entries

/-- The value of a name. -/
def get? (key : String) : Entries → Option Value
  | [] => none
  | (k, v) :: rest => if k = key then some v else get? key rest

/-- Give a name the value that `f` makes of the one it has; a new name goes to the end. -/
def alter (key : String) (f : Option Value → Option Value) : Entries → Option Entries
  | [] => (f none).map fun v => [(key, v)]
  | (k, v) :: rest =>
    if k = key then (f (some v)).map fun v' => (k, v') :: rest
    else (alter key f rest).map ((k, v) :: ·)

/-- May a path go on into a table of the given origin?  `way` says what kind of path it is. -/
def admits (way : Origin) : Origin → Bool
  | .braces => false
  | .header => way ≠ .dotted
  | .passing => true
  | .dotted => true

/-- Change the table that `path` leads to.  Missing tables are made with `way` as their origin; of
tables that share a header the path leads into the last. -/
def within (way : Origin) (change : Origin → Entries → Option Entries) :
    List String → Origin → Entries → Option Entries
  | [], origin, entries => change origin entries
  | key :: rest, _, entries =>
    entries.alter key fun
      | none => (within way change rest way []).map (.table way)
      | some (.table origin inner) =>
        if admits way origin then (within way change rest origin inner).map (.table origin)
        else none
      | some (.tables items) =>
        match items.reverse with
        | [] => none
        | last :: before =>
          (within way change rest .header last).map fun last' => .tables (last' :: before).reverse
      | some _ => none

/-- Add a value under a name that must be new. -/
def add (key : String) (v : Value) (entries : Entries) : Option Entries :=
  entries.alter key fun
    | none => some v
    | some _ => none

/-- Add a value under a dotted key.  The last table on the way has to be one that dotted keys made,
unless there is none on the way. -/
def addDotted (path : List String) (key : String) (v : Value) (origin : Origin)
    (entries : Entries) : Option Entries :=
  entries.within .dotted
    (fun origin inner =>
      if (origin = .dotted) ↔ path.isEmpty then none else inner.add key v)
    path origin

/-- Start the table with the given header. -/
def openTable (path : List String) (key : String) (root : Entries) : Option Entries :=
  root.within .passing
    (fun _ inner =>
      inner.alter key fun
        | none => some (.table .header [])
        | some (.table .passing entries) => some (.table .header entries)
        | some _ => none)
    path .header

/-- Start one more of the tables that share the given header. -/
def openNext (path : List String) (key : String) (root : Entries) : Option Entries :=
  root.within .passing
    (fun _ inner =>
      inner.alter key fun
        | none => some (.tables [[]])
        | some (.tables items) => some (.tables (items ++ [[]]))
        | some _ => none)
    path .header

end Entries

end HostOverlay.Toml
