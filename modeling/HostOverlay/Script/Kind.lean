/-!
# What the name of a file says about it

Three classifiers read the end of a path and nothing else.

* `isForeign`: is it a `.tzen` file, the format the host knows nothing about?
* `Extension.of?`: which of the extensions that a module is loaded as does it carry?
* `ScriptKind.ofPath`: which grammar would a host without this layer parse it by?

The first two tell capital letters from small ones, the third does not.
-/

set_option autoImplicit false

namespace HostOverlay

/-- Does the text `s` end in `ending`? -/
def endsIn (s ending : String) : Bool :=
  ending.toList.isSuffixOf s.toList

/-- The ending of a foreign file's name. -/
def foreignEnding : String := ".tzen"

/-- Does `path` name a foreign file?  The text of the path decides, not what it points at. -/
def isForeign (path : String) : Bool :=
  endsIn path foreignEnding

/-! ## Extensions -/

/-- The file extension that a resolved module is loaded as. -/
inductive Extension where
  | ts
  | tsx
  /-- A declaration file; foreign modules are loaded as one. -/
  | dts
  | js
  | jsx
  | json
  deriving DecidableEq, Repr, Inhabited

namespace Extension

/-- The spelling of an extension, dot included. -/
def spelling : Extension → String
  | ts => ".ts"
  | tsx => ".tsx"
  | dts => ".d.ts"
  | js => ".js"
  | jsx => ".jsx"
  | json => ".json"

/-- All extensions, in the order in which they are declared. -/
def all : List Extension := [ts, tsx, dts, js, jsx, json]

/-- All extensions, in the order in which a path is tested for them: `.d.ts` before `.ts`. -/
def bySpecificity : List Extension := [dts, tsx, ts, jsx, js, json]

/-- The extension that `path` carries. -/
def of? (path : String) : Option Extension :=
  bySpecificity.find? fun e => endsIn path e.spelling

end Extension

/-! ## Script kinds -/

/-- The grammar that a host's checker parses a file by. -/
inductive ScriptKind where
  | unknown
  | js
  | jsx
  /-- The typed source language; foreign files are presented as this kind. -/
  | ts
  | tsx
  | external
  | json
  | deferred
  deriving DecidableEq, Repr, Inhabited

namespace ScriptKind

/-- The name of a script kind. -/
def name : ScriptKind → String
  | unknown => "unknown"
  | js => "js"
  | jsx => "jsx"
  | ts => "ts"
  | tsx => "tsx"
  | external => "external"
  | json => "json"
  | deferred => "deferred"

/-- All script kinds, in the order in which they are declared. -/
def all : List ScriptKind := [unknown, js, jsx, ts, tsx, external, json, deferred]

/-- The endings that a host knows, each with its kind, in the order in which they are tested. -/
def endings : List (String × ScriptKind) :=
  [(".tsx", tsx), (".ts", ts), (".mts", ts), (".cts", ts), (".jsx", jsx), (".js", js), (".mjs", js),
    (".cjs", js), (".json", json)]

/-- The small form of an ASCII capital; every other character as it is. -/
def lowerAscii (s : String) : String :=
  String.ofList (s.toList.map Char.toLower)

/-- The kind that a path's ending stands for, capital letters counting as small ones. -/
def ofPath (path : String) : ScriptKind :=
  ((endings.find? fun (ending, _) => endsIn (lowerAscii path) ending).map Prod.snd).getD unknown

end ScriptKind

end HostOverlay
