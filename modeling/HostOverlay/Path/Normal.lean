import HostOverlay.Path.Basic

/-!
# The lexical normal form of a path

`resolve base other` joins two paths and folds `.` and `..` away by looking at the text alone.  A
`..` takes back the name before it, is lost at the root, and is kept at the front of a relative
path, where there is no name for it to take back.
-/

set_option autoImplicit false

namespace HostOverlay.Path

/-- Take one more step from the place that `stack`, last step first, has led to. -/
def push (stack : List Component) : Component → List Component
  | .current => stack
  | .parent =>
    match stack with
    | .name _ :: rest => rest
    | .root :: _ => stack
    | _ => .parent :: stack
  | step => step :: stack

/-- The steps that are left of `cs` once `.` and `..` are folded away. -/
def fold (cs : List Component) : List Component :=
  (cs.foldl push []).reverse

/-- The text of folded steps: a lone `.` when there are none. -/
def render : List Component → String
  | [] => "."
  | .root :: rest => "/" ++ joinSegments (rest.map Component.spelling)
  | cs => joinSegments (cs.map Component.spelling)

/-- The normal form of `other` as seen from `base`. -/
def resolve (base other : String) : String :=
  render (fold (components (join base other)))

end HostOverlay.Path
