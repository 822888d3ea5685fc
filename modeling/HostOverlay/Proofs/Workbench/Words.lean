import HostOverlay.Cli.Console
import HostOverlay.Proofs.Host.Request
import HostOverlay.Proofs.Text.Offset
import HostOverlay.Workbench.Host
import HostOverlay.Workbench.Service
import Mathlib.Data.List.TakeWhile
import Mathlib.Tactic.Set

/-!
# The word at the cursor

Quick info is about a word of the text that the host serves.  `IsWord` says which spans are words: a
run of word characters between two boundaries that goes on neither to the left nor to the right.

A position in a text cuts it into four parts: what lies before the word that touches the position,
the part of the word before the position, the part behind it, and the rest.  `Around` is such a cut,
and everything about the word at a position is read off it.

* `exists_around`: every boundary cuts a text in this way.
* `Around.wordAt_eq`: the word at the position is made of the two middle parts.
* `Around.isWord`, `Around.touched_iff`: they make a whole word, and they are empty when no word
  character touches the position.
* `Around.move`: from another boundary of the word one sees the same word.
* `quickInfo_spec` says what quick info is, for every host.
-/

set_option autoImplicit false

namespace HostOverlay.Workbench

open Text

/-! ## Words -/

/-- The span is a word of the text, and a whole one. -/
structure IsWord (text : String) (span : TextSpan) : Prop where
  nonempty : span.start < span.stop
  isBoundary_start : IsBoundary text span.start
  isBoundary_stop : IsBoundary text span.stop
  inside : ∀ n c, span.start ≤ n → n < span.stop → CharAt text n c → isWordChar c = true
  /-- It does not go on to the left. -/
  not_before : ∀ c, CharBefore text span.start c → isWordChar c = false
  /-- It does not go on to the right. -/
  not_behind : ∀ c, CharAt text span.stop c → isWordChar c = false

/-- A word character ends or begins at the position. -/
def IsTouched (text : String) (position : Nat) : Prop :=
  ∃ c, (CharBefore text position c ∨ CharAt text position c) ∧ isWordChar c = true

/-! ## The parts of a text around a position -/

/-- The text is cut at the position and at the ends of the word that touches it.  The word is empty
when no word character does. -/
structure Around (text : String) (position : Nat) (before left right behind : List Char) :
    Prop where
  toList_eq : text.toList = before ++ left ++ (right ++ behind)
  size_eq : byteSize (before ++ left) = position
  isWordChar : ∀ c ∈ left ++ right, isWordChar c = true
  not_before : ∀ c, before.getLast? = some c → Workbench.isWordChar c = false
  not_behind : ∀ c, behind.head? = some c → Workbench.isWordChar c = false

/-- A run of word characters ends where the first other character stands. -/
theorem isWordChar_of_head?_dropWhile {cs : List Char} {c : Char}
    (h : (cs.dropWhile isWordChar).head? = some c) : isWordChar c = false := by
  have hhead := List.head?_dropWhile_not isWordChar cs
  rwa [h] at hhead

/-- What is taken of a run of word characters with something else behind it is the run. -/
theorem takeWhile_isWordChar {run rest : List Char} (hrun : ∀ c ∈ run, isWordChar c = true)
    (hrest : ∀ c, rest.head? = some c → isWordChar c = false) :
    (run ++ rest).takeWhile isWordChar = run := by
  rw [List.takeWhile_append_of_pos hrun]
  cases rest with
  | nil => rw [List.takeWhile_nil, List.append_nil]
  | cons c rest => rw [List.takeWhile_cons_of_neg (by simp [hrest c rfl]), List.append_nil]

/-- **Every boundary cuts a text in this way.** -/
theorem exists_around {text : String} {position : Nat} (h : IsBoundary text position) :
    ∃ before left right behind, Around text position before left right behind := by
  obtain ⟨cs, ds, htext, hposition⟩ := isBoundary_iff.1 h
  set left := (cs.reverse.takeWhile isWordChar).reverse with hleft
  set before := (cs.reverse.dropWhile isWordChar).reverse with hbefore
  have hcs : before ++ left = cs := by
    rw [hbefore, hleft, ← List.reverse_append, List.takeWhile_append_dropWhile,
      List.reverse_reverse]
  refine ⟨before, left, ds.takeWhile isWordChar, ds.dropWhile isWordChar, ?_, ?_, ?_, ?_, ?_⟩
  · rw [htext, hcs, List.takeWhile_append_dropWhile]
  · rw [hcs, hposition]
  · intro c hc
    rcases List.mem_append.1 hc with hc | hc
    · exact List.mem_takeWhile_imp (List.mem_reverse.1 hc)
    · exact List.mem_takeWhile_imp hc
  · intro c hc
    rw [hbefore, List.getLast?_reverse] at hc
    exact isWordChar_of_head?_dropWhile hc
  · exact fun c ↦ isWordChar_of_head?_dropWhile

namespace Around

variable {text : String} {position : Nat} {before left right behind : List Char}
  (h : Around text position before left right behind)

include h

/-- The text with the word in one piece. -/
theorem toList_eq_word : text.toList = before ++ ((left ++ right) ++ behind) := by
  rw [h.toList_eq, List.append_assoc, List.append_assoc]

theorem start_le : byteSize before ≤ position := by
  rw [← h.size_eq, byteSize_append]
  exact Nat.le_add_right _ _

theorem le_stop : position ≤ byteSize before + byteSize (left ++ right) := by
  rw [← h.size_eq, byteSize_append, byteSize_append]
  omega

/-- **The word at a position is made of the two parts that touch it.** -/
theorem wordAt_eq : wordAt text position =
    if left ++ right = [] then none else some ⟨byteSize before, byteSize (left ++ right)⟩ := by
  have hcut : splitAtByte text.toList position = some (before ++ left, right ++ behind) :=
    splitAtByte_eq_some_iff.2 ⟨h.toList_eq, h.size_eq⟩
  have hleft : (before ++ left).reverse.takeWhile Workbench.isWordChar = left.reverse := by
    rw [List.reverse_append]
    refine takeWhile_isWordChar (fun c hc ↦ h.isWordChar c ?_) fun c hc ↦ h.not_before c ?_
    · exact List.mem_append_left _ (List.mem_reverse.1 hc)
    · rwa [← List.head?_reverse]
  have hright : (right ++ behind).takeWhile Workbench.isWordChar = right :=
    takeWhile_isWordChar (fun c hc ↦ h.isWordChar c (List.mem_append_right _ hc)) h.not_behind
  have hstart : position - byteSize left = byteSize before := by
    rw [← h.size_eq, byteSize_append, Nat.add_sub_cancel]
  rw [wordAt, hcut]
  simp only [hleft, hright, byteSize_reverse, hstart, ← byteSize_append, byteSize_pos_iff, ite_not]

/-- **The two parts make a whole word**, unless both are empty. -/
theorem isWord (hne : left ++ right ≠ []) :
    IsWord text ⟨byteSize before, byteSize (left ++ right)⟩ := by
  have hstop : text.toList = (before ++ (left ++ right)) ++ behind :=
    h.toList_eq_word.trans (List.append_assoc _ _ _).symm
  have hsize : (⟨byteSize before, byteSize (left ++ right)⟩ : TextSpan).stop =
      byteSize (before ++ (left ++ right)) := (byteSize_append _ _).symm
  refine ⟨?_, isBoundary_of_append h.toList_eq_word, ?_, ?_, ?_, ?_⟩
  · exact Nat.lt_add_of_pos_right (byteSize_pos_iff.2 hne)
  · exact hsize ▸ isBoundary_of_append hstop
  · intro n c hn hn' hchar
    obtain ⟨cs, ds, htext, rfl⟩ := charAt_iff.1 hchar
    -- the character stands behind the start of the word and before its end
    obtain ⟨ms, rfl, hms⟩ := exists_between (h.toList_eq_word.symm.trans htext) hn
    rw [hsize, byteSize_append, byteSize_append] at hn'
    obtain ⟨ks, hword, hks⟩ := exists_between hms.symm (by omega)
    cases ks with
    | nil =>
      rw [List.append_nil] at hword
      rw [hword] at hn'
      omega
    | cons k ks =>
      obtain ⟨rfl, -⟩ := List.cons.inj hks
      exact h.isWordChar c (hword ▸ by simp)
  · exact fun c hchar ↦ h.not_before c ((charBefore_iff_getLast? h.toList_eq_word).1 hchar)
  · exact fun c hchar ↦ h.not_behind c ((charAt_iff_head? hstop).1 (hsize ▸ hchar))

/-- There is a word exactly where a word character touches the position. -/
theorem touched_iff : IsTouched text position ↔ left ++ right ≠ [] := by
  have hbefore : ∀ c, CharBefore text position c ↔ (before ++ left).getLast? = some c := fun c ↦
    h.size_eq ▸ charBefore_iff_getLast? h.toList_eq
  have hat : ∀ c, CharAt text position c ↔ (right ++ behind).head? = some c := fun c ↦
    h.size_eq ▸ charAt_iff_head? h.toList_eq
  constructor
  · rintro ⟨c, hc, hword⟩ hnil
    obtain ⟨rfl, rfl⟩ := List.append_eq_nil_iff.1 hnil
    rw [hbefore, hat, List.append_nil, List.nil_append] at hc
    rcases hc with hc | hc
    · rw [h.not_before c hc] at hword
      cases hword
    · rw [h.not_behind c hc] at hword
      cases hword
  · intro hne
    cases right with
    | cons c right => exact ⟨c, .inr ((hat c).2 rfl), h.isWordChar c (by simp)⟩
    | nil =>
      rw [List.append_nil] at hne
      obtain ⟨cs, c, rfl⟩ := List.eq_nil_or_concat left |>.resolve_left hne
      rw [List.concat_eq_append] at hbefore h
      refine ⟨c, .inl ((hbefore c).2 ?_), h.isWordChar c (by simp)⟩
      rw [← List.append_assoc, List.getLast?_concat]

/-- **From another boundary of the word one sees the same word.** -/
theorem move {other : Nat} (hother : IsBoundary text other) (hstart : byteSize before ≤ other)
    (hstop : other ≤ byteSize before + byteSize (left ++ right)) :
    ∃ left' right', left' ++ right' = left ++ right ∧
      Around text other before left' right' behind := by
  obtain ⟨cs, ds, htext, rfl⟩ := isBoundary_iff.1 hother
  obtain ⟨left', rfl, hrest⟩ := exists_between (h.toList_eq_word.symm.trans htext) hstart
  rw [byteSize_append] at hstop
  obtain ⟨right', hword, rfl⟩ := exists_between hrest.symm (by omega)
  exact ⟨left', right', hword.symm, htext, rfl, hword ▸ h.isWordChar, h.not_before, h.not_behind⟩

end Around

/-! ## Quick info -/

variable {σ : Type}

section

variable (host : Host σ) {file text : String} {w w' : σ}
  (h : (host.scriptSnapshot file).run w = (.ok (some ⟨text⟩), w')) {position : Nat}

include h

/-- Without a word there is no quick info. -/
theorem run_quickInfo_of_none (hword : wordAt text position = none) :
    ((wordService host).quickInfo file position).run w = (.ok none, w') := by
  refine (run_bind_of_ok _ h).trans ?_
  simp only [hword]
  rfl

/-- The word at the position is shown with the kind of the file. -/
theorem run_quickInfo_of_some {span : TextSpan} (hword : wordAt text position = some span) :
    ((wordService host).quickInfo file position).run w =
      (.ok (some (wordInfo ⟨text⟩ (host.scriptKind file w').1 span)),
        (host.scriptKind file w').2) := by
  refine (run_bind_of_ok _ h).trans ?_
  simp only [hword]
  rfl

theorem run_quickInfo_of_around {before left right behind : List Char}
    (haround : Around text position before left right behind) (hne : left ++ right ≠ []) :
    ((wordService host).quickInfo file position).run w =
      (.ok (some ⟨.unknown, ⟨byteSize before, byteSize (left ++ right)⟩,
        String.ofList (left ++ right) ++ " (" ++ (host.scriptKind file w').1.name ++ ")"⟩),
        (host.scriptKind file w').2) := by
  have hpart : Snapshot.part ⟨text⟩ (byteSize before)
      (byteSize before + byteSize (left ++ right)) = String.ofList (left ++ right) :=
    slice_middle (haround.toList_eq_word.trans (List.append_assoc _ _ _).symm)
  rw [run_quickInfo_of_some host h (haround.wordAt_eq.trans (if_neg hne)), ← hpart]
  rfl

end

/-- **What quick info is.**  Take any host that serves `text` for a file.  There is no quick info
exactly when the position lies behind the end of the text or inside a character, or no word
character touches it.  Otherwise there is a word of the text that touches the position, and what is
shown is this word, byte for byte, with the kind of the file.  Every boundary of the word has the
same quick info. -/
theorem quickInfo_spec (host : Host σ) {file text : String} {w w' : σ}
    (h : (host.scriptSnapshot file).run w = (.ok (some ⟨text⟩), w')) (position : Nat) :
    let quickInfo := fun n ↦ ((wordService host).quickInfo file n).run w
    ((quickInfo position).1 = .ok none ↔
      text.utf8ByteSize < position ∨ ¬ IsBoundary text position ∨ ¬ IsTouched text position) ∧
    ((quickInfo position).1 ≠ .ok none → ∃ (span : TextSpan) (word : String),
      IsBoundary text position ∧ IsWord text span ∧
      span.start ≤ position ∧ position ≤ span.stop ∧ span.stop ≤ text.utf8ByteSize ∧
      Snapshot.part ⟨text⟩ span.start span.stop = word ∧ word ≠ "" ∧
      bytes word = (bytes text).extract span.start span.stop ∧
      ∀ n, IsBoundary text n → span.start ≤ n → n ≤ span.stop →
        quickInfo n =
          (.ok (some ⟨.unknown, span, word ++ " (" ++ (host.scriptKind file w').1.name ++ ")"⟩),
            (host.scriptKind file w').2)) := by
  intro quickInfo
  by_cases hboundary : IsBoundary text position
  · obtain ⟨before, left, right, behind, haround⟩ := exists_around hboundary
    have htouched := haround.touched_iff
    by_cases hne : left ++ right = []
    · have hnone : (quickInfo position).1 = .ok none :=
        congrArg Prod.fst
          (run_quickInfo_of_none host h (haround.wordAt_eq.trans (if_pos hne)))
      exact ⟨iff_of_true hnone (.inr (.inr fun ht ↦ htouched.1 ht hne)),
        fun hsome ↦ (hsome hnone).elim⟩
    · have hsome : (quickInfo position).1 ≠ .ok none := by
        have hrun : quickInfo position = _ := run_quickInfo_of_around host h haround hne
        rw [hrun]
        simp
      have hword := haround.isWord hne
      have hmiddle : text.toList = before ++ (left ++ right) ++ behind :=
        haround.toList_eq_word.trans (List.append_assoc _ _ _).symm
      refine ⟨iff_of_false hsome ?_, fun _ ↦ ⟨_, String.ofList (left ++ right), hboundary, hword,
        haround.start_le, haround.le_stop, hword.isBoundary_stop.le_utf8ByteSize,
        slice_middle hmiddle, by simpa using hne, bytes_middle hmiddle, fun n hn hstart hstop ↦ ?_⟩⟩
      · rintro (hlt | hinside | huntouched)
        · exact Nat.not_lt.2 hboundary.le_utf8ByteSize hlt
        · exact hinside hboundary
        · exact huntouched (htouched.2 hne)
      · -- the other boundary sees the same word
        obtain ⟨left', right', hsame, hother⟩ := haround.move hn hstart hstop
        have hrun := run_quickInfo_of_around host h hother (hsame ▸ hne)
        rwa [hsame] at hrun
  · have hword : wordAt text position = none := by
      rw [wordAt, splitAtByte_eq_none_iff.2 hboundary]
    have hnone : (quickInfo position).1 = .ok none :=
      congrArg Prod.fst (run_quickInfo_of_none host h hword)
    exact ⟨iff_of_true hnone (.inr (.inl hboundary)), fun hsome ↦ (hsome hnone).elim⟩

/-- A host that serves one text with wide letters in it for every file. -/
def wideHost : Host Cli.Console :=
  { diskHost "/" [] with scriptSnapshot := fun _ ↦ pure (some ⟨"let größe$ = 1"⟩) }

/-- Inside of a wide letter there is no quick info; at its ends, and at both ends of its word, it is
the same. -/
theorem quickInfo_spec_of_wide_letters :
    let w : Cli.Console := { disk := ⟨.emptyDir, "/", none⟩ }
    let quickInfo := fun n ↦ ((wordService wideHost).quickInfo "/a.ts" n).run w
    (wideHost.scriptSnapshot "/a.ts").run w = (.ok (some ⟨"let größe$ = 1"⟩), w) ∧
      (quickInfo 7).1 = .ok none ∧
      ∀ n ∈ [4, 6, 8, 12], quickInfo n = (.ok (some ⟨.unknown, ⟨4, 8⟩, "größe$ (ts)"⟩), w) := by
  intro w quickInfo
  have hserved : (wideHost.scriptSnapshot "/a.ts").run w =
      (.ok (some ⟨"let größe$ = 1"⟩), w) := rfl
  have hword : wordAt "let größe$ = 1" 12 = some ⟨4, 8⟩ := by decide +kernel
  have hinfo : wordInfo ⟨"let größe$ = 1"⟩ (.ofPath "/a.ts") ⟨4, 8⟩ =
      ⟨.unknown, ⟨4, 8⟩, "größe$ (ts)"⟩ := by decide +kernel
  have hend : quickInfo 12 = (.ok (some ⟨.unknown, ⟨4, 8⟩, "größe$ (ts)"⟩), w) :=
    (run_quickInfo_of_some wideHost hserved hword).trans (by rw [← hinfo]; rfl)
  obtain ⟨hnone, -⟩ := quickInfo_spec wideHost hserved 7
  obtain ⟨-, hsome⟩ := quickInfo_spec wideHost hserved 12
  obtain ⟨span, word, hboundary, -, hstart, hstop, -, -, -, -, hsame⟩ := hsome fun h ↦ by
    have hne := (congrArg Prod.fst hend).symm.trans h
    simp at hne
  have h12 := (hsame 12 hboundary hstart hstop).symm.trans hend
  obtain rfl : span = ⟨4, 8⟩ :=
    congrArg QuickInfo.span (Option.some.inj (Except.ok.inj (congrArg Prod.fst h12)))
  have hinside : ∀ n ∈ [4, 6, 8, 12], IsBoundary "let größe$ = 1" n ∧ 4 ≤ n ∧ n ≤ 12 := by
    decide
  refine ⟨hserved, hnone.2 (.inr (.inl (by decide))), fun n hn ↦ ?_⟩
  obtain ⟨hn, hle, hge⟩ := hinside n hn
  exact (hsame n hn hle hge).trans h12

end HostOverlay.Workbench
