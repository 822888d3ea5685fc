/-!
# Glob patterns

A glob describes a set of paths, as texts of bytes with `/` between names.

* `?` is any byte but `/`, and `*` any number of them.
* `**/` at the start is any number of leading directories, `/**/` any number of directories in the
  middle, and `/**` at the end everything below a directory.
* `[…]` is one byte of a class, `[!…]` and `[^…]` one byte outside it; a class that is never closed
  stands for its own characters.
* `{…,…}` is one of several globs.
* a backslash takes the character behind it as it is.

`Glob.parse` reads a pattern, or says what is wrong with it.
-/

set_option autoImplicit false

namespace HostOverlay

/-- One element of a glob. -/
inductive Glob.Token where
  /-- A character that stands for itself. -/
  | literal (c : Char)
  /-- One byte other than `/`. -/
  | anyByte
  /-- Any number of bytes other than `/`. -/
  | star
  /-- Any number of leading directories. -/
  | leadingDirs
  /-- Everything below the directory before it. -/
  | everythingBelow
  /-- A slash, or any number of directories between two slashes. -/
  | innerDirs
  /-- One byte of a set of ranges, or outside of it. -/
  | byteIn (negated : Bool) (ranges : List (Char × Char))
  /-- One of several globs. -/
  | oneOf (branches : List (List Token))
  deriving Repr, Inhabited

/-- A glob pattern. -/
structure Glob where
  tokens : List Glob.Token
  deriving Repr, Inhabited

namespace Glob

/-- What is wrong with a pattern. -/
inductive ParseError where
  /-- A range of a class runs from a character down to an earlier one. -/
  | backwardRange (first last : Char)
  | unopenedGroup
  | unclosedGroup
  | danglingBackslash
  deriving DecidableEq, Repr, Inhabited

/-- The wording of what is wrong with a pattern. -/
def ParseError.message : ParseError → String
  | .backwardRange first last =>
    "invalid range; '" ++ first.toString ++ "' > '" ++ last.toString ++ "'"
  | .unopenedGroup =>
    "unopened alternate group; missing '\x7b' (maybe escape '\x7d' with '[\x7d]'?)"
  | .unclosedGroup =>
    "unclosed alternate group; missing '\x7d' (maybe escape '\x7b' with '[\x7b]'?)"
  | .danglingBackslash => "dangling '\\'"

/-! ## Classes -/

/-- What a bracket opens. -/
inductive Class where
  /-- Nothing, since no bracket closes it. -/
  | unclosed
  /-- A class with a range that runs backwards. -/
  | backward (first last : Char)
  /-- A class with the given members, and what follows its closing bracket. -/
  | members (ranges : List (Char × Char)) (rest : List Char)
  deriving Inhabited

/-- Read the members of a class up to its closing bracket.  `start` is the first character of a
range that a dash has opened, `first` says that no member has been read, and `seen` are the members
so far, last first. -/
def Class.read (first : Bool) (start : Option Char) (seen : List (Char × Char)) :
    List Char → Class
  | [] => .unclosed
  | ']' :: rest =>
    if first then read false none ((']', ']') :: seen) rest
    else
      match start with
      | some _ => .members (('-', '-') :: seen).reverse rest
      | none => .members seen.reverse rest
  | c :: rest =>
    match start with
    | some a =>
      if c < a then .backward a c else read false none ((a, c) :: seen.tail) rest
    | none =>
      if c = '-' && !first then read false (seen.head?.map Prod.fst) seen rest
      else read false none ((c, c) :: seen) rest

/-- What follows a class is a part of what the class was read from. -/
theorem Class.length_of_read {first : Bool} {start : Option Char} {seen : List (Char × Char)}
    {cs : List Char} {ranges : List (Char × Char)} {rest : List Char}
    (h : Class.read first start seen cs = .members ranges rest) : rest.length < cs.length := by
  fun_induction Class.read first start seen cs with
  | case1 => cases h
  | case2 _ _ _ ih => exact Nat.lt_succ_of_lt (ih h)
  | case3 => cases h; simp
  | case4 => cases h; simp
  | case5 => cases h
  | case6 _ _ _ _ _ _ _ ih => exact Nat.lt_succ_of_lt (ih h)
  | case7 _ _ _ _ _ _ ih => exact Nat.lt_succ_of_lt (ih h)
  | case8 _ _ _ _ _ _ ih => exact Nat.lt_succ_of_lt (ih h)

/-- Take away the mark of a class that is negated. -/
def Class.negation : List Char → Bool × List Char
  | '!' :: rest => (true, rest)
  | '^' :: rest => (true, rest)
  | rest => (false, rest)

theorem Class.length_negation (cs : List Char) : (Class.negation cs).2.length ≤ cs.length := by
  fun_cases Class.negation cs <;> simp

/-! ## Reading a pattern -/

/-- What has been read of a pattern: the open groups, innermost first.  A group holds the tokens of
the branch that is being read and the branches before it, all of them last first. -/
structure Reading where
  branch : List Token
  done : List (List Token)
  outer : List (List Token × List (List Token))
  deriving Inhabited

namespace Reading

/-- Add a token to the current branch. -/
def add (r : Reading) (t : Token) : Reading := { r with branch := t :: r.branch }

/-- Is no group open? -/
def atTop (r : Reading) : Bool := r.outer.isEmpty

/-- Open a group. -/
def openGroup (r : Reading) : Reading := ⟨[], [], (r.branch, r.done) :: r.outer⟩

/-- Begin the next branch of a group. -/
def nextBranch (r : Reading) : Reading := { r with branch := [], done := r.branch :: r.done }

/-- Close the innermost group, if one is open. -/
def closeGroup (r : Reading) : Option Reading :=
  match r.outer with
  | [] => none
  | (branch, done) :: outer =>
    let branches := ((r.branch :: r.done).map List.reverse).reverse
    some ⟨.oneOf branches :: branch, done, outer⟩

end Reading

/-- What two stars in a row stand for, given the character before them and what is behind them.  The
second part says whether the slash behind them belongs to them. -/
def doubleStar (r : Reading) (before : Option Char) (behind : List Char) : Reading × Bool :=
  let plain := (r.add .star).add .star
  match r.branch with
  | [] =>
    match behind with
    | [] => (r.add .leadingDirs, false)
    | '/' :: _ => (r.add .leadingDirs, true)
    | _ => (plain, false)
  | last :: earlier =>
    let inGroup := !r.atTop
    let opensBranch := inGroup && (before = some ',' || before = some '{')
    if before ≠ some '/' && !opensBranch then (plain, false)
    else
      let replaced (t : Token) : Reading :=
        match last with
        | .leadingDirs => r
        | .everythingBelow => r
        | _ => { r with branch := t :: earlier }
      match behind with
      | [] => (replaced .everythingBelow, false)
      | '/' :: _ => (replaced .innerDirs, true)
      | c :: _ =>
        if inGroup && (c = ',' || c = '}') then (replaced .everythingBelow, false)
        else (plain, false)

/-- Read the rest of a pattern; `before` is the character before it, and `bracketed` says that a
bracket before it was never closed. -/
def read (before : Option Char) (bracketed : Bool) (r : Reading) :
    List Char → Except ParseError Reading
  | [] => .ok r
  | c :: rest =>
    match c with
    | '?' => read (some c) bracketed (r.add .anyByte) rest
    | '*' =>
      match rest with
      | '*' :: behind =>
        match doubleStar r before behind with
        | (r, true) => read (some '/') bracketed r (behind.drop 1)
        | (r, false) => read (some '*') bracketed r behind
      | other => read (some c) bracketed (r.add .star) other
    | '[' =>
      if bracketed then read (some c) bracketed (r.add (.literal c)) rest
      else
        match h : Class.read true none [] (Class.negation rest).2 with
        | .unclosed => read (some c) true (r.add (.literal c)) rest
        | .backward first last => .error (.backwardRange first last)
        | .members ranges behind =>
          have : behind.length < rest.length :=
            Nat.lt_of_lt_of_le (Class.length_of_read h) (Class.length_negation rest)
          read (some ']') bracketed (r.add (.byteIn (Class.negation rest).1 ranges)) behind
    | '{' => read (some c) bracketed r.openGroup rest
    | '}' =>
      match r.closeGroup with
      | none => .error .unopenedGroup
      | some r => read (some c) bracketed r rest
    | ',' =>
      if r.atTop then read (some c) bracketed (r.add (.literal c)) rest
      else read (some c) bracketed r.nextBranch rest
    | '\\' =>
      match rest with
      | [] => .error .danglingBackslash
      | e :: rest => read (some e) bracketed (r.add (.literal e)) rest
    | c => read (some c) bracketed (r.add (.literal c)) rest
termination_by cs => cs.length

/-- The glob that a pattern describes. -/
def parse (pattern : String) : Except ParseError Glob := do
  let r ← read none false ⟨[], [], []⟩ pattern.toList
  if r.atTop then .ok ⟨r.branch.reverse⟩ else .error .unclosedGroup

end Glob

end HostOverlay
