import HostOverlay.Json.Decode

/-!
# Settings

What a user can set: the foreign file that definitions lead to, and the declaration that is served
in place of a foreign file's content.  They come from a project's configuration, as a JSON entry,
or from a settings file.

An entry is an object in which both settings are optional and everything else is skipped, or an
array of at most the two of them in this order.
-/

set_option autoImplicit false

namespace HostOverlay

/-- What a user can set. -/
structure Settings where
  /-- The foreign file that every definition leads to, seen from the root of the project. -/
  definitionFile : String := "a.tzen"
  /-- The declaration served for every foreign file. -/
  placeholderSource : String := "export type A = 1;"
  deriving DecidableEq, Repr, Inhabited

namespace Settings

/-- The name of the setting for the definition file. -/
def definitionKey : String := "definitionFile"

/-- The name of the setting for the placeholder. -/
def placeholderKey : String := "placeholderSource"

/-- The settings read so far. -/
structure Draft where
  definitionFile : Option String := none
  placeholderSource : Option String := none

/-- The two settings as fields of a record. -/
def fields : List (Decoder.Field Draft) :=
  [⟨definitionKey, fun v d => return { d with definitionFile := some (← Decoder.text v) },
      (·.definitionFile.isSome), true⟩,
    ⟨placeholderKey, fun v d => return { d with placeholderSource := some (← Decoder.text v) },
      (·.placeholderSource.isSome), true⟩]

/-- The settings of a draft, with defaults for what is missing. -/
def ofDraft (d : Draft) : Settings :=
  let defaults : Settings := {}
  ⟨d.definitionFile.getD defaults.definitionFile,
    d.placeholderSource.getD defaults.placeholderSource⟩

/-- Reads settings. -/
def decoder : Decoder Settings :=
  .record "TzenConfig" fields {} fun d => .ok (ofDraft d)

/-- The settings of a project's configuration entry.  The entry's `name` says which layer it is
for. -/
def ofEntry : Decoder Settings
  | .object fields => decoder (.object (Json.eraseField "name" fields))
  | entry => decoder entry

end Settings

end HostOverlay
