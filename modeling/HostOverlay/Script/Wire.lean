import HostOverlay.Json.Decode
import HostOverlay.Script.Resolution
import HostOverlay.Script.Definition

/-!
# How scripts and answers are written as JSON

Each type of value that a host and this layer exchange has a function `toJson` and a decoder.  The
written form of a record is the object of its fields in declaration order; a decoder also takes the
array of the fields.
-/

set_option autoImplicit false

namespace HostOverlay

/-! ## Choices -/

/-- A script kind by its name. -/
def ScriptKind.toJson (k : ScriptKind) : Json := .string k.name

/-- Reads a script kind. -/
def ScriptKind.decoder : Decoder ScriptKind := .choice ScriptKind.all ScriptKind.name

/-- An extension by its spelling. -/
def Extension.toJson (e : Extension) : Json := .string e.spelling

/-- Reads an extension. -/
def Extension.decoder : Decoder Extension := .choice Extension.all Extension.spelling

/-- An element kind by its name. -/
def ElementKind.toJson (k : ElementKind) : Json := .string k.name

/-- Reads an element kind. -/
def ElementKind.decoder : Decoder ElementKind := .choice ElementKind.all ElementKind.name

/-! ## Specifiers -/

namespace Specifier

/-- A specifier as an object. -/
def toJson (s : Specifier) : Json := .object [("text", .string s.text)]

/-- Reads a specifier. -/
def decoder : Decoder Specifier :=
  .record "ModuleNameLiteral"
    [⟨"text", fun v _ => return some (← Decoder.text v), Option.isSome, false⟩]
    (none : Option String)
    (fun text => return ⟨← Decoder.require "text" text⟩)

end Specifier

/-! ## Modules and resolutions -/

namespace ResolvedModule

/-- A module as an object. -/
def toJson (m : ResolvedModule) : Json :=
  .object [("resolved_file_name", .string m.fileName), ("extension", m.extension.toJson),
    ("is_external_library_import", .bool m.isExternalLibraryImport)]

/-- The fields of a module read so far. -/
structure Draft where
  fileName : Option String := none
  extension : Option Extension := none
  isExternalLibraryImport : Option Bool := none

/-- The fields of a module. -/
def fields : List (Decoder.Field Draft) :=
  [⟨"resolved_file_name", fun v d => return { d with fileName := some (← Decoder.text v) },
      (·.fileName.isSome), false⟩,
    ⟨"extension", fun v d => return { d with extension := some (← Extension.decoder v) },
      (·.extension.isSome), false⟩,
    ⟨"is_external_library_import",
      fun v d => return { d with isExternalLibraryImport := some (← Decoder.boolean v) },
      (·.isExternalLibraryImport.isSome), false⟩]

/-- The module of a complete draft. -/
def ofDraft (d : Draft) : Except DecodeError ResolvedModule := do
  let fileName ← Decoder.require "resolved_file_name" d.fileName
  let extension ← Decoder.require "extension" d.extension
  let isExternal ← Decoder.require "is_external_library_import" d.isExternalLibraryImport
  return ⟨fileName, extension, isExternal⟩

/-- Reads a module. -/
def decoder : Decoder ResolvedModule := .record "ResolvedModule" fields {} ofDraft

end ResolvedModule

namespace Resolution

/-- A resolution as an object; the failed lookups are left out when there are none. -/
def toJson (r : Resolution) : Json :=
  .object (("resolved_module", .ofOption ResolvedModule.toJson r.module) ::
    (if r.failedLookups.isEmpty then []
      else [("failed_lookup_locations", .ofStrings r.failedLookups)]))

/-- The fields of a resolution read so far. -/
structure Draft where
  module : Option (Option ResolvedModule) := none
  failedLookups : Option (List String) := none

/-- The fields of a resolution. -/
def fields : List (Decoder.Field Draft) :=
  [⟨"resolved_module",
      fun v d => return { d with module := some (← Decoder.optional ResolvedModule.decoder v) },
      (·.module.isSome), false⟩,
    ⟨"failed_lookup_locations",
      fun v d => return { d with failedLookups := some (← Decoder.list Decoder.text v) },
      (·.failedLookups.isSome), true⟩]

/-- The resolution of a draft; both fields may be missing. -/
def ofDraft (d : Draft) : Except DecodeError Resolution :=
  .ok ⟨d.module.getD none, d.failedLookups.getD []⟩

/-- Reads a resolution. -/
def decoder : Decoder Resolution := .record "ModuleResolution" fields {} ofDraft

end Resolution

/-! ## Spans -/

namespace TextSpan

/-- A span as an object. -/
def toJson (s : TextSpan) : Json :=
  .object [("start", .ofNat s.start), ("length", .ofNat s.length)]

/-- The fields of a span read so far. -/
structure Draft where
  start : Option Nat := none
  length : Option Nat := none

/-- The fields of a span. -/
def fields : List (Decoder.Field Draft) :=
  [⟨"start", fun v d => return { d with start := some (← Decoder.position v) },
      (·.start.isSome), false⟩,
    ⟨"length", fun v d => return { d with length := some (← Decoder.position v) },
      (·.length.isSome), false⟩]

/-- The span of a complete draft. -/
def ofDraft (d : Draft) : Except DecodeError TextSpan := do
  let start ← Decoder.require "start" d.start
  let length ← Decoder.require "length" d.length
  return ⟨start, length⟩

/-- Reads a span. -/
def decoder : Decoder TextSpan := .record "TextSpan" fields {} ofDraft

end TextSpan

/-! ## Definitions -/

namespace Definition

/-- A definition as an object. -/
def toJson (d : Definition) : Json :=
  .object [("file_name", .string d.fileName), ("text_span", d.span.toJson),
    ("kind", d.kind.toJson), ("name", .string d.name), ("container_kind", d.containerKind.toJson),
    ("container_name", .string d.containerName)]

/-- The fields of a definition read so far. -/
structure Draft where
  fileName : Option String := none
  span : Option TextSpan := none
  kind : Option ElementKind := none
  name : Option String := none
  containerKind : Option ElementKind := none
  containerName : Option String := none

/-- The fields of a definition. -/
def fields : List (Decoder.Field Draft) :=
  [⟨"file_name", fun v d => return { d with fileName := some (← Decoder.text v) },
      (·.fileName.isSome), false⟩,
    ⟨"text_span", fun v d => return { d with span := some (← TextSpan.decoder v) },
      (·.span.isSome), false⟩,
    ⟨"kind", fun v d => return { d with kind := some (← ElementKind.decoder v) },
      (·.kind.isSome), false⟩,
    ⟨"name", fun v d => return { d with name := some (← Decoder.text v) },
      (·.name.isSome), false⟩,
    ⟨"container_kind",
      fun v d => return { d with containerKind := some (← ElementKind.decoder v) },
      (·.containerKind.isSome), false⟩,
    ⟨"container_name", fun v d => return { d with containerName := some (← Decoder.text v) },
      (·.containerName.isSome), false⟩]

/-- The definition of a complete draft. -/
def ofDraft (d : Draft) : Except DecodeError Definition := do
  let fileName ← Decoder.require "file_name" d.fileName
  let span ← Decoder.require "text_span" d.span
  let kind ← Decoder.require "kind" d.kind
  let name ← Decoder.require "name" d.name
  let containerKind ← Decoder.require "container_kind" d.containerKind
  let containerName ← Decoder.require "container_name" d.containerName
  return ⟨fileName, span, kind, name, containerKind, containerName⟩

/-- Reads a definition. -/
def decoder : Decoder Definition := .record "DefinitionInfo" fields {} ofDraft

end Definition

namespace DefinitionAnswer

/-- An answer as an object. -/
def toJson (a : DefinitionAnswer) : Json :=
  .object [("definitions", .array (a.definitions.map Definition.toJson)),
    ("text_span", a.span.toJson)]

/-- The fields of an answer read so far. -/
structure Draft where
  definitions : Option (List Definition) := none
  span : Option TextSpan := none

/-- The fields of an answer. -/
def fields : List (Decoder.Field Draft) :=
  [⟨"definitions",
      fun v d => return { d with definitions := some (← Decoder.list Definition.decoder v) },
      (·.definitions.isSome), false⟩,
    ⟨"text_span", fun v d => return { d with span := some (← TextSpan.decoder v) },
      (·.span.isSome), false⟩]

/-- The answer of a complete draft. -/
def ofDraft (d : Draft) : Except DecodeError DefinitionAnswer := do
  let definitions ← Decoder.require "definitions" d.definitions
  let span ← Decoder.require "text_span" d.span
  return ⟨definitions, span⟩

/-- Reads an answer. -/
def decoder : Decoder DefinitionAnswer := .record "DefinitionInfoAndBoundSpan" fields {} ofDraft

end DefinitionAnswer

/-! ## Quick info -/

namespace QuickInfo

/-- Quick info as an object. -/
def toJson (q : QuickInfo) : Json :=
  .object [("kind", q.kind.toJson), ("text_span", q.span.toJson), ("display", .string q.display)]

/-- The fields of quick info read so far. -/
structure Draft where
  kind : Option ElementKind := none
  span : Option TextSpan := none
  display : Option String := none

/-- The fields of quick info. -/
def fields : List (Decoder.Field Draft) :=
  [⟨"kind", fun v d => return { d with kind := some (← ElementKind.decoder v) },
      (·.kind.isSome), false⟩,
    ⟨"text_span", fun v d => return { d with span := some (← TextSpan.decoder v) },
      (·.span.isSome), false⟩,
    ⟨"display", fun v d => return { d with display := some (← Decoder.text v) },
      (·.display.isSome), false⟩]

/-- The quick info of a complete draft. -/
def ofDraft (d : Draft) : Except DecodeError QuickInfo := do
  let kind ← Decoder.require "kind" d.kind
  let span ← Decoder.require "text_span" d.span
  let display ← Decoder.require "display" d.display
  return ⟨kind, span, display⟩

/-- Reads quick info. -/
def decoder : Decoder QuickInfo := .record "QuickInfo" fields {} ofDraft

end QuickInfo

end HostOverlay
