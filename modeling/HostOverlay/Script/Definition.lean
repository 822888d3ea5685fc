/-!
# Answers of a language service

Places in files, the definitions that a symbol leads to, and what is shown when the cursor rests on
one.  Offsets and lengths count bytes.
-/

set_option autoImplicit false

namespace HostOverlay

/-- A range of text, by its start and its length. -/
structure TextSpan where
  start : Nat
  length : Nat
  deriving DecidableEq, Repr, Inhabited

/-- The offset behind the last byte of a span. -/
def TextSpan.stop (s : TextSpan) : Nat := s.start + s.length

/-- The kind of element that an answer points at. -/
inductive ElementKind where
  | unknown
  | module
  | type
  | interface
  | classType
  | function
  | variableName
  deriving DecidableEq, Repr, Inhabited

namespace ElementKind

/-- The name under which a kind is written in messages between programs. -/
def name : ElementKind → String
  | unknown => "unknown"
  | module => "module"
  | type => "type"
  | interface => "interface"
  | classType => "class"
  | function => "function"
  | variableName => "variable"

/-- The short word that a host shows for a kind; there is none for the unknown kind. -/
def label : ElementKind → String
  | unknown => ""
  | variableName => "var"
  | k => k.name

/-- All element kinds, in the order in which they are declared. -/
def all : List ElementKind := [unknown, module, type, interface, classType, function, variableName]

end ElementKind

/-- One place that "go to definition" leads to. -/
structure Definition where
  fileName : String
  span : TextSpan
  kind : ElementKind
  name : String
  containerKind : ElementKind
  containerName : String
  deriving DecidableEq, Repr, Inhabited

/-- The definitions of a symbol, with the span of the symbol that was asked about. -/
structure DefinitionAnswer where
  definitions : List Definition
  span : TextSpan
  deriving DecidableEq, Repr, Inhabited

/-- What is shown for the symbol at a position. -/
structure QuickInfo where
  kind : ElementKind
  span : TextSpan
  display : String
  deriving DecidableEq, Repr, Inhabited

end HostOverlay
