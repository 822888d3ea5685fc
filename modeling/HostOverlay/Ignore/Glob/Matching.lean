import HostOverlay.Ignore.Glob
import HostOverlay.Path.Spelling

/-!
# Matching globs

`Glob.matchesPath` says whether a glob describes a path.  Matching works on bytes, so that a
character outside ASCII counts as several.

A token is matched in front of a **goal**, which stands for all that has to be matched behind it.
What a goal is can be chosen: `Matcher` collects the few operations on goals that tokens need, and
there are two choices.

* `Matcher.onRest`: a goal is a test of the bytes that are left.  This is the meaning of a glob.
* `Matcher.onTails`: a goal is the list of the answers of such a test for all tails of one text.
  Each token costs a single pass over the text, however the tokens before it were matched.

`tokens_tabulate` says that both give the same answers, and `matchesBytes_eq` that a path is matched
as the first one says.
-/

set_option autoImplicit false

namespace HostOverlay.Glob

/-! ## Bytes -/

/-- The byte of `/`. -/
def slash : UInt8 := 47

/-- The bytes of a character. -/
def charBytes (c : Char) : List UInt8 := c.toString.toUTF8.toList

/-- The ranges of bytes that a class of ranges of characters comes to: the bytes of both ends, with
a range from the last byte of the first to the first byte of the second. -/
def byteRanges (first last : Char) : List (UInt8 × UInt8) :=
  if first = last then (charBytes first).map fun b => (b, b)
  else
    let low := charBytes first
    let high := charBytes last
    (low.dropLast.map fun b => (b, b)) ++ [(low.getLast?.getD 0, high.head?.getD 0)]
      ++ (high.tail.map fun b => (b, b))

/-- Is the byte in one of the ranges of a class? -/
def inClass (ranges : List (Char × Char)) (b : UInt8) : Bool :=
  ranges.any fun (first, last) =>
    (byteRanges first last).any fun (low, high) => low ≤ b && b ≤ high

/-! ## Blank branches -/

mutual

/-- Is the token a group without a branch that asks for anything? -/
def Token.isBlank : Token → Bool
  | .oneOf branches => allBlank branches
  | _ => false

/-- Do the tokens ask for nothing?  A branch of a group that does is no choice. -/
def isBlankBranch : List Token → Bool
  | [] => true
  | t :: ts => t.isBlank && isBlankBranch ts

/-- Do all branches ask for nothing? -/
def allBlank : List (List Token) → Bool
  | [] => true
  | ts :: rest => isBlankBranch ts && allBlank rest

end

/-! ## Goals -/

/-- The operations on goals of type `κ`. -/
structure Matcher (κ : Type) where
  /-- The goal that is never met. -/
  never : κ
  /-- One of two goals. -/
  either : κ → κ → κ
  /-- One byte that passes the test, then the goal. -/
  oneByte : (UInt8 → Bool) → κ → κ
  /-- Any number of bytes that pass the test, then the goal. -/
  many : (UInt8 → Bool) → κ → κ

namespace Matcher

section

variable {κ : Type} (m : Matcher κ)

/-- The given bytes, then the goal. -/
def exactly : List UInt8 → κ → κ
  | [], k => k
  | x :: xs, k => m.oneByte (· == x) (exactly xs k)

/-- Any bytes up to and with a slash, then the goal. -/
def throughSlash (k : κ) : κ := m.many (fun _ => true) (m.oneByte (· == slash) k)

mutual

/-- What a token stands for, then the goal. -/
def token : Token → κ → κ
  | .literal c, k => m.exactly (charBytes c) k
  | .anyByte, k => m.oneByte (· != slash) k
  | .star, k => m.many (· != slash) k
  | .leadingDirs, k => m.either k (m.throughSlash k)
  | .everythingBelow, k => m.oneByte (· == slash) (m.many (fun _ => true) k)
  | .innerDirs, k => m.oneByte (· == slash) (m.either k (m.throughSlash k))
  | .byteIn negated ranges, k => m.oneByte (fun b => inClass ranges b != negated) k
  | .oneOf branches, k => if allBlank branches then k else oneOf branches k

/-- What tokens stand for one after the other, then the goal. -/
def tokens : List Token → κ → κ
  | [], k => k
  | t :: ts, k => token t (tokens ts k)

/-- What one of several branches stands for, then the goal. -/
def oneOf : List (List Token) → κ → κ
  | [], _ => m.never
  | ts :: rest, k =>
    if isBlankBranch ts then oneOf rest k else m.either (tokens ts k) (oneOf rest k)

end

end

/-! ## Tests of what is left -/

/-- A test of the bytes that are left. -/
abbrev Rest := List UInt8 → Bool

/-- One byte that passes the test, then the rest. -/
def Rest.oneByte (p : UInt8 → Bool) (k : Rest) : Rest
  | [] => false
  | b :: bs => p b && k bs

/-- Any number of bytes that pass the test, then the rest. -/
def Rest.many (p : UInt8 → Bool) (k : Rest) : Rest
  | [] => k []
  | b :: bs => k (b :: bs) || (p b && Rest.many p k bs)

/-- Goals as tests of the bytes that are left. -/
def onRest : Matcher Rest where
  never _ := false
  either j k bs := j bs || k bs
  oneByte := Rest.oneByte
  many := Rest.many

/-! ## Answers for all tails -/

/-- The answers of a test for all tails of a text, from the text itself to the empty one. -/
def tabulate (k : Rest) : List UInt8 → List Bool
  | [] => [k []]
  | b :: bs => k (b :: bs) :: tabulate k bs

/-- The answer for the text itself. -/
def answer (ks : List Bool) : Bool := ks.headD false

/-- The answers for one byte that passes the test, then the rest. -/
def Tails.oneByte (p : UInt8 → Bool) : List UInt8 → List Bool → List Bool
  | b :: bs, _ :: ks => (p b && answer ks) :: Tails.oneByte p bs ks
  | _, _ => [false]

/-- The answers for any number of bytes that pass the test, then the rest. -/
def Tails.many (p : UInt8 → Bool) : List UInt8 → List Bool → List Bool
  | b :: bs, k :: ks =>
    let rest := Tails.many p bs ks
    (k || (p b && answer rest)) :: rest
  | _, ks => ks

/-- Goals as lists of answers for all tails of `bs`. -/
def onTails (bs : List UInt8) : Matcher (List Bool) where
  never := tabulate (fun _ => false) bs
  either := List.zipWith (· || ·)
  oneByte p := Tails.oneByte p bs
  many p := Tails.many p bs

/-! ## Both give the same answers -/

@[simp] theorem answer_tabulate (k : Rest) (bs : List UInt8) : answer (tabulate k bs) = k bs := by
  cases bs <;> rfl

theorem never_tabulate (bs : List UInt8) : (onTails bs).never = tabulate onRest.never bs := rfl

theorem either_tabulate (j k : Rest) (bs : List UInt8) :
    (onTails bs).either (tabulate j bs) (tabulate k bs) = tabulate (onRest.either j k) bs := by
  induction bs with
  | nil => rfl
  | cons b bs ih => exact congrArg (List.cons (j (b :: bs) || k (b :: bs))) ih

theorem oneByte_tabulate (p : UInt8 → Bool) (k : Rest) (bs : List UInt8) :
    (onTails bs).oneByte p (tabulate k bs) = tabulate (onRest.oneByte p k) bs := by
  induction bs with
  | nil => rfl
  | cons b bs ih =>
    calc (onTails (b :: bs)).oneByte p (tabulate k (b :: bs))
        = (p b && answer (tabulate k bs)) :: (onTails bs).oneByte p (tabulate k bs) := rfl
      _ = tabulate (onRest.oneByte p k) (b :: bs) := by rw [ih, answer_tabulate]; rfl

theorem many_tabulate (p : UInt8 → Bool) (k : Rest) (bs : List UInt8) :
    (onTails bs).many p (tabulate k bs) = tabulate (onRest.many p k) bs := by
  induction bs with
  | nil => rfl
  | cons b bs ih =>
    calc (onTails (b :: bs)).many p (tabulate k (b :: bs))
        = (k (b :: bs) || (p b && answer ((onTails bs).many p (tabulate k bs))))
            :: (onTails bs).many p (tabulate k bs) := rfl
      _ = tabulate (onRest.many p k) (b :: bs) := by rw [ih, answer_tabulate]; rfl

theorem exactly_tabulate (xs : List UInt8) (k : Rest) (bs : List UInt8) :
    (onTails bs).exactly xs (tabulate k bs) = tabulate (onRest.exactly xs k) bs := by
  induction xs with
  | nil => rfl
  | cons x xs ih => rw [exactly, ih, oneByte_tabulate, exactly]

theorem throughSlash_tabulate (k : Rest) (bs : List UInt8) :
    (onTails bs).throughSlash (tabulate k bs) = tabulate (onRest.throughSlash k) bs := by
  rw [throughSlash, oneByte_tabulate, many_tabulate, throughSlash]

mutual

theorem token_tabulate (bs : List UInt8) (k : Rest) : (t : Token) →
    (onTails bs).token t (tabulate k bs) = tabulate (onRest.token t k) bs
  | .literal c => by rw [token, exactly_tabulate, token]
  | .anyByte => by rw [token, oneByte_tabulate, token]
  | .star => by rw [token, many_tabulate, token]
  | .leadingDirs => by rw [token, throughSlash_tabulate, either_tabulate, token]
  | .everythingBelow => by rw [token, many_tabulate, oneByte_tabulate, token]
  | .innerDirs => by rw [token, throughSlash_tabulate, either_tabulate, oneByte_tabulate, token]
  | .byteIn negated ranges => by rw [token, oneByte_tabulate, token]
  | .oneOf branches => by
    rw [token, token, oneOf_tabulate bs k branches]
    split <;> rfl

theorem tokens_tabulate (bs : List UInt8) (k : Rest) : (ts : List Token) →
    (onTails bs).tokens ts (tabulate k bs) = tabulate (onRest.tokens ts k) bs
  | [] => by rw [tokens, tokens]
  | t :: ts => by rw [tokens, tokens_tabulate bs k ts, token_tabulate bs _ t, tokens]

theorem oneOf_tabulate (bs : List UInt8) (k : Rest) : (branches : List (List Token)) →
    (onTails bs).oneOf branches (tabulate k bs) = tabulate (onRest.oneOf branches k) bs
  | [] => by rw [oneOf, oneOf, never_tabulate]
  | ts :: rest => by
    rw [oneOf, oneOf, oneOf_tabulate bs k rest, tokens_tabulate bs k ts, either_tabulate]
    split <;> rfl

end

end Matcher

/-! ## Paths -/

/-- Do the tokens match all of the bytes? -/
def matchesBytes (ts : List Token) (bs : List UInt8) : Bool :=
  Matcher.answer ((Matcher.onTails bs).tokens ts (Matcher.tabulate List.isEmpty bs))

theorem matchesBytes_eq (ts : List Token) (bs : List UInt8) :
    matchesBytes ts bs = Matcher.onRest.tokens ts List.isEmpty bs := by
  rw [matchesBytes, Matcher.tokens_tabulate, Matcher.answer_tabulate]

/-- Does the glob describe the written path?  A glob that is nothing but `**` describes every
path. -/
def matchesPath (g : Glob) (path : String) : Bool :=
  match g.tokens with
  | [.leadingDirs] => true
  | ts => matchesBytes ts (Path.bytes path)

end HostOverlay.Glob
