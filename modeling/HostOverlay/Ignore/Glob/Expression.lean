import HostOverlay.Ignore.Glob.Matching

/-!
# Globs as regular expressions

A glob can be written as a regular expression over bytes that describes the same paths.  An
expression is a sequence of **items**, and items may hold others: a repetition holds what it
repeats, a class its members, and a group its branches, which are sequences again.

* `Glob.expression` is the expression of a glob, and `Glob.expressionText` its text.
* `depth` says how deep items lie inside each other.  Things that stand side by side lie one deeper
  than one that stands alone.
* `Glob.isTooDeep` says whether a glob nests deeper than `depthLimit`.
-/

set_option autoImplicit false

namespace HostOverlay.Glob

/-! ## Items -/

/-- An item of a regular expression. -/
inductive Item where
  /-- A byte, a place or a mode, with nothing inside. -/
  | single (text : String)
  /-- One byte of a set of ranges, or outside of it. -/
  | byteIn (negated : Bool) (ranges : List (UInt8 × UInt8))
  /-- A number of copies of an item, as the mark behind it says. -/
  | repeated (item : Item) (mark : Char)
  /-- One of several sequences. -/
  | group (branches : List (List Item))
  deriving Repr, Inhabited

/-! ## Text -/

/-- Does the character need a backslash to stand for itself? -/
def needsBackslash (c : Char) : Bool :=
  "\\.+*?()|[]\x7b\x7d^$#&-~".toList.contains c

/-- The text of a byte: a character of ASCII, or two digits in hexadecimal. -/
def byteText (b : UInt8) : String :=
  if b < 128 then
    let c := Char.ofNat b.toNat
    if needsBackslash c then "\\" ++ c.toString else c.toString
  else "\\x" ++ String.ofList (Nat.toDigits 16 b.toNat)

/-- The text of a range of bytes. -/
def rangeText (range : UInt8 × UInt8) : String :=
  if range.1 = range.2 then byteText range.1 else byteText range.1 ++ "-" ++ byteText range.2

mutual

/-- The text of an item. -/
def Item.text : Item → String
  | .single text => text
  | .byteIn negated ranges =>
    "[" ++ (if negated then "^" else "") ++ String.join (ranges.map rangeText) ++ "]"
  | .repeated item mark => item.text ++ mark.toString
  | .group branches => "(?:" ++ String.intercalate "|" (branchTexts branches) ++ ")"

/-- The text of a sequence. -/
def sequenceText : List Item → String
  | [] => ""
  | item :: rest => item.text ++ sequenceText rest

/-- The texts of sequences. -/
def branchTexts : List (List Item) → List String
  | [] => []
  | items :: rest => sequenceText items :: branchTexts rest

end

/-! ## Depth -/

/-- How much deeper things lie for standing side by side: not at all if there is one alone. -/
def sideBySide {α : Type} (things : List α) : Nat :=
  if things.length ≤ 1 then 0 else 1

mutual

/-- How deep the items inside an item lie. -/
def Item.depth : Item → Nat
  | .single _ => 0
  | .byteIn _ ranges => 1 + sideBySide ranges
  | .repeated item _ => 1 + item.depth
  | .group branches => 1 + sideBySide branches + deepestBranch branches

/-- The depth of the deepest item. -/
def deepest : List Item → Nat
  | [] => 0
  | item :: rest => max item.depth (deepest rest)

/-- The depth of the deepest sequence. -/
def deepestBranch : List (List Item) → Nat
  | [] => 0
  | items :: rest => max (sideBySide items + deepest items) (deepestBranch rest)

end

/-- How deep the items of a sequence lie. -/
def sequenceDepth (items : List Item) : Nat := sideBySide items + deepest items

/-! ## The expression of a glob -/

/-- Any number of bytes. -/
def anyBytes : Item := .repeated (.single ".") '*'

/-- One byte other than `/`. -/
def notSlash : Item := .byteIn true [(slash, slash)]

mutual

/-- The items of a token. -/
def Token.items : Token → List Item
  | .literal c => (charBytes c).map fun b => .single (byteText b)
  | .anyByte => [notSlash]
  | .star => [.repeated notSlash '*']
  | .leadingDirs => [.group [[.repeated (.single "/") '?'], [anyBytes, .single "/"]]]
  | .everythingBelow => [.single "/", anyBytes]
  | .innerDirs => [.group [[.single "/"], [.single "/", anyBytes, .single "/"]]]
  | .byteIn negated ranges =>
    [.byteIn negated (ranges.flatMap fun (first, last) => byteRanges first last)]
  | .oneOf branches =>
    match branchItems branches with
    | [] => []
    | branches => [.group branches]

/-- The items of tokens one after the other. -/
def tokensItems : List Token → List Item
  | [] => []
  | t :: ts => t.items ++ tokensItems ts

/-- The items of the branches of a group; a branch that asks for nothing is no choice. -/
def branchItems : List (List Token) → List (List Item)
  | [] => []
  | ts :: rest =>
    match tokensItems ts with
    | [] => branchItems rest
    | items => items :: branchItems rest

end

/-- The expression of a glob.  A glob that is nothing but `**` describes every path. -/
def expression (g : Glob) : List Item :=
  let items :=
    match g.tokens with
    | [.leadingDirs] => [anyBytes]
    | ts => tokensItems ts
  [.single "(?-u)", .single "^"] ++ items ++ [.single "$"]

/-- The text of a glob's expression. -/
def expressionText (g : Glob) : String := sequenceText g.expression

/-! ## Limits -/

/-- The greatest depth of an expression. -/
def depthLimit : Nat := 250

/-- Does the glob nest too deep? -/
def isTooDeep (g : Glob) : Bool := depthLimit < sequenceDepth g.expression

/-- Do the tokens, last first, begin with an extension? -/
def extensionFirst : List Token → Bool
  | .literal '.' :: _ => true
  | .literal '/' :: _ => false
  | .literal _ :: rest => extensionFirst rest
  | _ => false

/-- Does the glob end in an extension: a dot, and no slash and nothing but characters behind it? -/
def endsInExtension (g : Glob) : Bool := extensionFirst g.tokens.reverse

end HostOverlay.Glob
