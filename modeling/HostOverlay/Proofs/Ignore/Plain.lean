import HostOverlay.Ignore.File
import HostOverlay.Proofs.Path.Spelling

/-!
# Rules that are plain names

The simplest line of an ignore file is the name of an entry.  Its rule speaks of everything that has
this name, at every depth below the directory of the file.

* `parse_plain`: the rule on such a line.
* `appliesTo_named`: it speaks of the entries that have the name.
* `IsPlainName.mem_rules`: the file has this rule, if the line is read.
-/

set_option autoImplicit false

namespace HostOverlay.Ignore

/-! ## Plain names -/

/-- The characters of plain names: letters and digits of ASCII, and dots. -/
def isPlainChar (c : Char) : Bool := c.isAlphanum || c = '.'

/-- A name that stands for itself on a line of an ignore file. -/
structure IsPlainName (n : String) : Prop where
  ne_empty : n ≠ ""
  isPlain : ∀ c ∈ n.toList, isPlainChar c = true

instance (n : String) : Decidable (IsPlainName n) :=
  decidable_of_iff (n ≠ "" ∧ n.toList.all isPlainChar = true)
    ⟨fun ⟨h₁, h₂⟩ ↦ ⟨h₁, List.all_eq_true.1 h₂⟩, fun h ↦ ⟨h.1, List.all_eq_true.2 h.2⟩⟩

theorem ne_of_isPlainChar {c x : Char} (h : isPlainChar c = true) (hx : isPlainChar x = false) :
    c ≠ x := by
  rintro rfl
  rw [h] at hx
  cases hx

theorem isBlank_eq_false {c : Char} (h : isPlainChar c = true) : isBlank c = false := by
  have hbetween : ∀ low high : Char, 46 ≤ low.toNat → high.toNat ≤ 122 → low.val ≤ c.val →
      c.val ≤ high.val → 46 ≤ c.toNat ∧ c.toNat ≤ 122 := by
    intro low high hlow hhigh hle hge
    rw [UInt32.le_iff_toNat_le] at hle hge
    exact ⟨Nat.le_trans hlow hle, Nat.le_trans hge hhigh⟩
  have hrange : 46 ≤ c.toNat ∧ c.toNat ≤ 122 := by
    change (c.isUpper || c.isLower || c.isDigit || decide (c = '.')) = true at h
    simp only [Bool.or_eq_true, decide_eq_true_eq] at h
    rcases h with ((h | h) | h) | rfl
    · obtain ⟨hlow, hhigh⟩ := of_decide_eq_true h
      exact hbetween 'A' 'Z' (by decide) (by decide) hlow hhigh
    · obtain ⟨hlow, hhigh⟩ := Bool.and_eq_true_iff.1 h
      exact hbetween 'a' 'z' (by decide) (by decide) (of_decide_eq_true hlow)
        (of_decide_eq_true hhigh)
    · obtain ⟨hlow, hhigh⟩ := Bool.and_eq_true_iff.1 h
      exact hbetween '0' '9' (by decide) (by decide) (of_decide_eq_true hlow)
        (of_decide_eq_true hhigh)
    · decide
  simp only [isBlank, Bool.or_eq_false_iff, Bool.and_eq_false_iff, decide_eq_false_iff_not]
  omega

theorem IsPlainName.isText {n : String} (h : IsPlainName n) : Path.IsText n := fun hnul ↦
  ne_of_isPlainChar (h.isPlain _ hnul) (by decide) rfl

/-! ## The rule on a line -/

/-- The glob of all paths that end in the name. -/
def namedGlob (n : String) : Glob := ⟨.leadingDirs :: n.toList.map .literal⟩

/-- The rule of a plain name. -/
def namedRule (n : String) : Rule := ⟨namedGlob n, false, false⟩

section

variable {cs : List Char} (h : ∀ c ∈ cs, isPlainChar c = true)

include h

/-- Plain characters stand for themselves. -/
theorem read_plain (before : Option Char) (bracketed : Bool) (r : Glob.Reading) :
    Glob.read before bracketed r cs =
      .ok { r with branch := (cs.map Glob.Token.literal).reverse ++ r.branch } := by
  induction cs generalizing before r with
  | nil =>
    rw [Glob.read]
    rfl
  | cons c cs ih =>
    rw [List.forall_mem_cons] at h
    rw [Glob.read, ih h.2]
    · simp [Glob.Reading.add]
    all_goals exact ne_of_isPlainChar h.1 (by decide)

theorem notMem_of_plain {x : Char} (hx : isPlainChar x = false) : x ∉ cs := fun hmem ↦
  ne_of_isPlainChar (h x hmem) hx rfl

theorem trimEnd_plain : trimEnd cs = cs := by
  have hsuffix : ['\\', ' '].isSuffixOf cs = false := by
    rw [Bool.eq_false_iff]
    intro hs
    exact notMem_of_plain h (by decide)
      ((List.isSuffixOf_iff_suffix.1 hs).subset List.mem_cons_self)
  have hreverse : cs.reverse.dropWhile isBlank = cs.reverse := by
    cases hcs : cs.reverse with
    | nil => rfl
    | cons c rest =>
      have hc : c ∈ cs := List.mem_reverse.1 (hcs ▸ List.mem_cons_self)
      exact List.dropWhile_cons_of_neg (by simp [isBlank_eq_false (h c hc)])
  rw [trimEnd, hsuffix, if_neg (by simp), hreverse, List.reverse_reverse]

theorem leadingMarks_plain : leadingMarks cs = (false, false, cs) := by
  cases cs with
  | nil => rfl
  | cons c cs =>
    have hc : ∀ x, isPlainChar x = false → c ≠ x := fun x ↦
      ne_of_isPlainChar (h c List.mem_cons_self)
    have h₁ := hc '\\' (by decide)
    have h₂ := hc '!' (by decide)
    have h₃ := hc '/' (by decide)
    simp [leadingMarks, h₁, h₂, h₃]

theorem trailingSlash_plain : trailingSlash cs = (false, cs) := by
  have hslash : '/' ∉ cs.reverse := fun hmem ↦
    notMem_of_plain h (by decide) (List.mem_reverse.1 hmem)
  rw [trailingSlash]
  split
  · rename_i hcs
    exact absurd (hcs ▸ List.mem_cons_self) hslash
  · rename_i hcs
    exact absurd (hcs ▸ List.mem_cons_self) hslash
  · rfl

theorem globText_plain (hne : cs ≠ []) : globText false cs = '*' :: '*' :: '/' :: cs := by
  have hslash : cs.contains '/' = false := by
    simpa using notMem_of_plain h (by decide)
  have hstars : cs ≠ ['*', '*'] := by
    rintro rfl
    exact notMem_of_plain h (by decide) List.mem_cons_self
  have hsuffix : ['/', '*', '*'].isSuffixOf ('*' :: '*' :: '/' :: cs) = false := by
    rw [Bool.eq_false_iff]
    intro hs
    obtain ⟨init, hinit⟩ := List.isSuffixOf_iff_suffix.1 hs
    -- the last character would be a star
    have hlast := congrArg List.getLast? hinit
    have hfront : '*' :: '*' :: '/' :: cs = ['*', '*', '/'] ++ cs := rfl
    rw [hfront, List.getLast?_append, List.getLast?_append,
      List.getLast?_eq_some_getLast hne] at hlast
    obtain hstar : '*' = cs.getLast hne := Option.some.inj hlast
    exact notMem_of_plain h (by decide) (hstar ▸ List.getLast_mem hne)
  simp only [globText, hslash, Bool.not_false, Bool.and_self, hstars, ne_eq,
    not_false_eq_true, decide_true, if_true, List.cons_append, List.nil_append, hsuffix,
    Bool.false_eq_true, if_false]

end

/-- **The rule on a line with a plain name.** -/
theorem parse_plain {n : String} (h : IsPlainName n) :
    Rule.parse n.toList = .ok (some (namedRule n)) := by
  have hne : n.toList ≠ [] := String.toList_eq_nil_iff.not.2 h.ne_empty
  have hhash : ['#'].isPrefixOf n.toList = false := by
    rw [Bool.eq_false_iff]
    intro hs
    exact notMem_of_plain h.isPlain (by decide)
      ((List.isPrefixOf_iff_prefix.1 hs).subset List.mem_cons_self)
  have hglob : Glob.parse (String.ofList ('*' :: '*' :: '/' :: n.toList)) = .ok (namedGlob n) := by
    rw [Glob.parse, String.toList_ofList, Glob.read]
    simp only [Glob.doubleStar, List.drop_succ_cons, List.drop_zero, read_plain h.isPlain]
    simp [Glob.Reading.add, Glob.Reading.atTop, bind, Except.bind, namedGlob]
  rw [Rule.parse, hhash, if_neg (by simp), trimEnd_plain h.isPlain]
  simp only [leadingMarks_plain h.isPlain, trailingSlash_plain h.isPlain,
    globText_plain h.isPlain hne, hglob, List.isEmpty_eq_false_iff.2 hne, Bool.false_eq_true,
    if_false]
  rfl

/-! ## What the rule speaks of -/

open Glob in
theorem many_append {k : Matcher.Rest} {xs ys : List UInt8} (h : k ys = true) :
    Matcher.Rest.many (fun _ ↦ true) k (xs ++ ys) = true := by
  induction xs with
  | nil => cases ys <;> simp [Matcher.Rest.many, h]
  | cons x xs ih => simp [Matcher.Rest.many, ih]

open Glob in
theorem exactly_append (xs : List UInt8) (k : Matcher.Rest) (bs : List UInt8) :
    Matcher.onRest.exactly xs k (xs ++ bs) = k bs := by
  induction xs with
  | nil => rfl
  | cons x xs ih =>
    rw [Matcher.exactly, ← ih]
    simp [Matcher.onRest, Matcher.Rest.oneByte]

open Glob in
/-- Characters that stand for themselves match their own bytes. -/
theorem tokens_literals (cs : List Char) (k : Matcher.Rest) (bs : List UInt8) :
    Matcher.onRest.tokens (cs.map .literal) k (cs.flatMap charBytes ++ bs) = k bs := by
  induction cs with
  | nil => rfl
  | cons c cs ih =>
    rw [List.map_cons, List.flatMap_cons, List.append_assoc, Matcher.tokens, Matcher.token,
      exactly_append, ih]

theorem flatMap_charBytes (s : String) : s.toList.flatMap Glob.charBytes = bytes s := by
  have hchar : ∀ c, Glob.charBytes c = String.utf8EncodeChar c := by
    intro c
    rw [Glob.charBytes, toList_toUTF8, bytes_eq_flatMap]
    simp
  rw [bytes_eq_flatMap, funext hchar]

/-- **The rule of a name speaks of every entry that has it**, whatever the path in front of it. -/
theorem appliesTo_named {n path : String} (hn : IsPlainName n)
    (h : (Path.segments path).getLast? = some n) (isDir : Bool) :
    (namedRule n).appliesTo path isDir = true := by
  have hmatches : (namedGlob n).matchesPath path =
      Glob.matchesBytes (.leadingDirs :: n.toList.map .literal) (Path.bytes path) := by
    obtain ⟨c, cs, hcs⟩ := List.exists_cons_of_ne_nil (String.toList_eq_nil_iff.not.2 hn.ne_empty)
    rw [Glob.matchesPath, namedGlob, hcs]
    rfl
  have hname :
      Glob.Matcher.onRest.tokens (n.toList.map .literal) List.isEmpty (Path.bytes n) = true := by
    rw [Path.bytes_of_isText hn.isText]
    have hmatch := tokens_literals n.toList List.isEmpty []
    rw [List.append_nil, flatMap_charBytes] at hmatch
    exact hmatch
  rw [Rule.appliesTo, namedRule, hmatches, Glob.matchesBytes_eq, Glob.Matcher.tokens,
    Glob.Matcher.token]
  have heither : ∀ (j k : Glob.Matcher.Rest) bs,
      Glob.Matcher.onRest.either j k bs = (j bs || k bs) := fun _ _ _ ↦ rfl
  obtain ⟨ss, hss⟩ := List.getLast?_eq_some_iff.1 h
  have hpath : path = Path.joinSegments (ss ++ [n]) := by rw [← hss, Path.joinSegments_segments]
  by_cases hss : ss = []
  · -- the name alone, without a directory in front
    rw [hpath, hss, List.nil_append, Path.joinSegments_singleton]
    simp only [heither, hname, Bool.true_or, Bool.not_false, Bool.true_and]
  · -- what is in front ends in a slash
    have hbytes : Path.bytes path =
        Path.bytes (Path.joinSegments ss) ++ Glob.slash :: Path.bytes n := by
      rw [hpath, Path.joinSegments_append hss (by simp), Path.joinSegments_singleton,
        Path.bytes_slash]
      rfl
    have hthrough : Glob.Matcher.onRest.throughSlash
        (Glob.Matcher.onRest.tokens (n.toList.map .literal) List.isEmpty)
          (Path.bytes path) = true := by
      rw [hbytes]
      refine many_append ?_
      simpa [Glob.Matcher.onRest, Glob.Matcher.Rest.oneByte] using hname
    simp only [heither, hthrough, Bool.or_true, Bool.not_false, Bool.true_or, Bool.true_and]

/-! ## The rule in a file -/

/-- A line of an ignore file that is read: it is text, as all lines before it are, and no pattern of
the file nests too deep. -/
structure IsLineOf (line : String) (content : ByteArray) : Prop where
  mem : some line.toList ∈ (textLines content).takeWhile Option.isSome
  tooDeep : (File.ofContent content).tooDeep = none

instance (line : String) (content : ByteArray) : Decidable (IsLineOf line content) :=
  decidable_of_iff (some line.toList ∈ (textLines content).takeWhile Option.isSome ∧
      (File.ofContent content).tooDeep = none)
    ⟨fun ⟨h₁, h₂⟩ ↦ ⟨h₁, h₂⟩, fun h ↦ ⟨h.1, h.2⟩⟩

/-- A file has rules unless one of its patterns nests too deep. -/
theorem File.bounded_eq {f : File} (h : f.bounded.tooDeep = none) : f.bounded = f := by
  rw [bounded] at h ⊢
  split at h
  · rfl
  · cases h

theorem File.mem_rules_ofLines {line : List Char} {r : Rule} (hr : Rule.parse line = .ok (some r)) :
    ∀ {n : Nat} {lines : List (Option (List Char))}, some line ∈ lines.takeWhile Option.isSome →
      r ∈ (ofLines n lines).rules
  | n, [], h => nomatch h
  | n, none :: rest, h => nomatch h
  | n, some first :: rest, h => by
    rw [List.takeWhile_cons_of_pos rfl] at h
    rw [ofLines]
    rcases List.mem_cons.1 h with heq | hrest
    · obtain rfl := Option.some.inj heq
      rw [hr]
      exact List.mem_cons_self
    · have hmem := mem_rules_ofLines hr (n := n + 1) hrest
      cases Rule.parse first with
      | error pattern => exact hmem
      | ok rule =>
        cases rule with
        | none => exact hmem
        | some rule => exact List.mem_cons_of_mem _ hmem

/-- **A line with a plain name gives its rule.** -/
theorem IsPlainName.mem_rules {n : String} (hn : IsPlainName n) {content : ByteArray}
    (h : IsLineOf n content) : namedRule n ∈ (File.ofContent content).rules := by
  obtain ⟨hmem, hdeep⟩ := h
  have hrule := parse_plain hn
  rw [File.ofContent] at hdeep ⊢
  split at hdeep
  · rename_i first rest hlines
    rw [hlines, List.takeWhile_cons_of_pos rfl] at hmem
    rw [File.bounded_eq hdeep]
    refine File.mem_rules_ofLines hrule ?_
    rw [List.takeWhile_cons_of_pos rfl]
    rcases List.mem_cons.1 hmem with heq | hrest
    · -- a plain name does not begin with a byte order mark
      obtain rfl := Option.some.inj heq
      obtain ⟨c, cs, hcs⟩ := List.exists_cons_of_ne_nil (String.toList_eq_nil_iff.not.2 hn.ne_empty)
      have hc : c ≠ '\uFEFF' :=
        ne_of_isPlainChar (hn.isPlain c (hcs ▸ List.mem_cons_self)) (by decide)
      have hmark : ¬ c.toNat = 0xFEFF := fun hmark ↦ hc (Char.toNat_inj.1 hmark)
      have hsame : dropMarks n.toList = n.toList := by
        rw [dropMarks, hcs, List.dropWhile_cons_of_neg (by simpa using hmark)]
      rw [hsame]
      exact List.mem_cons_self
    · exact List.mem_cons_of_mem _ hrest
  · rw [File.bounded_eq hdeep]
    exact File.mem_rules_ofLines hrule hmem

end HostOverlay.Ignore
