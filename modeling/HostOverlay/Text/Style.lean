/-!
# Styled text

Terminals take the style of a text from escape sequences around it.  A plain style adds none.  A
`Theme` says which style each part of the program's output has.
-/

set_option autoImplicit false

namespace HostOverlay.Text

/-- The colours in use. -/
inductive Color where
  | green
  | yellow
  | magenta
  | cyan
  | white
  deriving DecidableEq, Repr, Inhabited

/-- The number of a foreground colour. -/
def Color.code : Color → String
  | .green => "32"
  | .yellow => "33"
  | .magenta => "35"
  | .cyan => "36"
  | .white => "37"

/-- How a text is shown. -/
structure Style where
  color : Option Color := none
  isBold : Bool := false
  isDimmed : Bool := false
  deriving DecidableEq, Repr, Inhabited

namespace Style

/-- The numbers of a style: its colour first, then bold, then dimmed. -/
def codes (s : Style) : List String :=
  s.color.toList.map Color.code ++ (if s.isBold then ["1"] else [])
    ++ (if s.isDimmed then ["2"] else [])

/-- A text in a style. -/
def apply (s : Style) (text : String) : String :=
  match s.codes with
  | [] => text
  | codes => "\x1b[" ++ String.intercalate ";" codes ++ "m" ++ text ++ "\x1b[0m"

end Style

/-- The styles of the parts of the output. -/
structure Theme where
  header : Style
  success : Style
  warn : Style
  label : Style
  path : Style
  deriving DecidableEq, Repr, Inhabited

namespace Theme

/-- The styles on a terminal. -/
def colored : Theme where
  header := { color := some .cyan, isBold := true }
  success := { color := some .green, isBold := true }
  warn := { color := some .yellow, isBold := true }
  label := { color := some .white, isDimmed := true }
  path := { color := some .magenta }

/-- The styles when the output does not go to a terminal. -/
def plain : Theme := ⟨{}, {}, {}, {}, {}⟩

end Theme

end HostOverlay.Text
