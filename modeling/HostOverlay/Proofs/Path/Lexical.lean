import HostOverlay.Proofs.Path.Canonical
import HostOverlay.Proofs.Path.Kept

/-!
# The normal form, three ways

`resolve` folds the steps of a path on a stack of steps.  This file has the same normal form in two
other ways.

* `lexical` runs over the segments of the joined path with a stack of texts.  It is what one would
  compute by hand.
* `amended` keeps no stack at all, only the text of the path so far: a name is joined to it, and a
  `..` looks at its last step and goes to its parent.

What ties the stack to the text is `amend_text`: the text is always the spelling of the stack, so
its last step is the top of the stack, and its parent is what lies below.

* `isNormal_iff`: the paths without detours, `IsNormal`, are exactly the ones that are their own
  normal form.
* `resolve_eq_lexical`: the three ways agree, and the result is without detours.
-/

set_option autoImplicit false

namespace HostOverlay.Path

/-! ## A stack that is kept as text -/

/-- One more step for a path of which only the text is kept: a name is joined to it, and a `..` goes
to its parent if its last step is a name. -/
def amend (out : String) : Component → String
  | .current => out
  | .root => join out "/"
  | .name n => join out n
  | .parent =>
    match (components out).getLast? with
    | some (.name _) => (parent? out).getD out
    | some .root => out
    | _ => join out ".."

/-- The normal form of `other` as seen from `base`, without a stack. -/
def amended (base other : String) : String :=
  let out := (components (join base other)).foldl amend ""
  if out = "" then "." else out

section

variable {absolute : Bool}

/-- A stack whose text can be kept in its place. -/
structure IsKeptStack (absolute : Bool) (stack : List String) : Prop where
  isKept : ∀ s ∈ stack, IsKept s
  /-- There is no way up from the root. -/
  no_up : absolute = true → ".." ∉ stack

theorem IsKeptStack.climb {stack : List String} (h : IsKeptStack absolute stack) {s : String}
    (hs : IsKept s) : IsKeptStack absolute (climb absolute stack s) := by
  refine ⟨fun t ht ↦ ?_, ?_⟩
  · rcases List.mem_cons.1 ((climb_sublist absolute stack s).subset ht) with rfl | ht
    · exact hs
    · exact h.isKept t ht
  · rintro rfl
    have hno := h.no_up rfl
    rw [Path.climb]
    split
    · cases stack with
      | nil => exact List.not_mem_nil
      | cons top rest =>
        rw [List.mem_cons, not_or] at hno
        rw [up, if_neg (Ne.symm hno.1)]
        exact hno.2
    · rename_i hne
      rw [List.mem_cons, not_or]
      exact ⟨Ne.symm hne, hno⟩

/-- **The text is the spelling of the stack**, and one more step keeps it so. -/
theorem amend_text {stack : List String} (h : IsKeptStack absolute stack) {s : String}
    (hs : IsKept s) : amend (text absolute stack.reverse) (Component.ofSegment s) =
      text absolute (climb absolute stack s).reverse := by
  have hrev : ∀ t ∈ stack.reverse, IsKept t := fun t ht ↦ h.isKept t (List.mem_reverse.1 ht)
  by_cases hup : s = ".."
  · subst hup
    rw [climb, if_pos rfl, ofSegment_up, amend, components_text hrev]
    cases stack with
    | nil =>
      cases absolute with
      | true => rfl
      | false => decide
    | cons top rest =>
      -- the last step of the text is the top of the stack
      rw [List.reverse_cons, List.map_append, List.map_singleton, ← List.append_assoc,
        List.getLast?_concat, up]
      by_cases htop : top = ".."
      · subst htop
        rw [ofSegment_up, if_pos rfl, ← List.reverse_cons, join_text hrev hs, ← List.reverse_cons]
      · have hn : IsName top := (h.isKept top List.mem_cons_self).resolve_left htop
        have hrest : ∀ t ∈ rest.reverse, IsKept t := fun t ht ↦
          h.isKept t (List.mem_cons_of_mem _ (List.mem_reverse.1 ht))
        rw [ofSegment_of_ne htop, if_neg htop, parent?_text hrest hn, Option.getD_some]
  · rw [climb, if_neg hup, ofSegment_of_ne hup, amend, join_text hrev hs, List.reverse_cons]

theorem foldl_amend_text {ss : List String} (hss : ∀ s ∈ ss, IsKept s) :
    ∀ stack : List String, IsKeptStack absolute stack →
      (ss.map Component.ofSegment).foldl amend (text absolute stack.reverse) =
        text absolute (ss.foldl (climb absolute) stack).reverse := by
  induction ss with
  | nil => exact fun _ _ ↦ rfl
  | cons s ss ih =>
    intro stack h
    rw [List.forall_mem_cons] at hss
    rw [List.map_cons, List.foldl_cons, List.foldl_cons, amend_text h hss.1,
      ih hss.2 _ (h.climb hss.1)]

end

/-- A path without a stack comes to the text of what is kept. -/
theorem foldl_amend_components (p : String) :
    (components p).foldl amend "" = text (isAbsolute p) (kept p) := by
  have hmoves : (moves p).foldl amend (text (isAbsolute p) []) = text (isAbsolute p) (kept p) := by
    refine foldl_amend_text (fun s hs ↦ ?_) [] ⟨by simp, by simp⟩
    obtain ⟨hs, hstay⟩ := List.mem_filter.1 hs
    obtain ⟨hempty, hdot⟩ := isStay_eq_false_iff.1 (by simpa using hstay)
    by_cases hup : s = ".."
    · exact .inl hup
    · exact .inr ⟨hempty, hdot, hup, no_slash_of_mem_segments hs⟩
  cases habs : isAbsolute p with
  | true =>
    rw [habs] at hmoves
    rw [components_of_isAbsolute habs, List.foldl_cons]
    exact hmoves
  | false =>
    rw [habs] at hmoves
    rcases components_of_relative habs with h | h
    · rw [h]
      exact hmoves
    · rw [h, List.foldl_cons]
      exact hmoves

/-! ## The shape of a normal form -/

/-- A path without detours: no segment that stays where it is, no `..` behind a name or the root,
and no slash but the ones it takes. -/
structure IsNormal (p : String) : Prop where
  ne_empty : p ≠ ""
  /-- Staying where one is has to be said by a path that says nothing else. -/
  no_dot : p ≠ "." → "." ∉ segments p
  /-- There is something between any two slashes, and behind the last one. -/
  no_gap : p ≠ "/" → "" ∉ (segments p).drop (if isAbsolute p then 1 else 0)
  no_slash_end : p ≠ "/" → hasTrailingSlash p = false
  ups_first : ∃ (k : Nat) (ss : List String), segments p = List.replicate k ".." ++ ss ∧ ".." ∉ ss
  no_up_at_root : isAbsolute p = true → ".." ∉ segments p

theorem isNormal_root : IsNormal "/" :=
  ⟨by decide, by decide, by decide, by decide, ⟨0, ["", ""], by decide⟩, by decide⟩

theorem isNormal_here : IsNormal "." :=
  ⟨by decide, by decide, by decide, by decide, ⟨0, ["."], by decide⟩, by decide⟩

theorem isNormal_text {absolute : Bool} {k : Nat} {ns : List String} (hns : ∀ n ∈ ns, IsName n)
    (hk : absolute = true → k = 0) (hne : List.replicate k ".." ++ ns ≠ []) :
    IsNormal (text absolute (List.replicate k ".." ++ ns)) := by
  set ss := List.replicate k ".." ++ ns with hss
  have hall : ∀ s ∈ ss, IsKept s := List.forall_mem_append.2
    ⟨fun s hs ↦ .inl (List.eq_of_mem_replicate hs), fun n hn ↦ .inr (hns n hn)⟩
  have hup : ".." ∉ ns := fun h ↦ (hns _ h).ne_dotdot rfl
  have habs := isAbsolute_text absolute hall
  have hsegments := segments_text absolute hall hne
  refine ⟨fun h ↦ hne ((text_eq_empty_iff hall).1 h).2, fun _ hdot ↦ ?_, fun _ hgap ↦ ?_,
    fun _ ↦ hasTrailingSlash_text hall hne, ?_, ?_⟩
  · rw [hsegments] at hdot
    have hmem : "." ∈ ss := by
      cases absolute with
      | true => simpa using hdot
      | false => exact hdot
    exact (hall _ hmem).ne_dot rfl
  · rw [hsegments, habs] at hgap
    have hmem : "" ∈ ss := by
      cases absolute with
      | true => exact hgap
      | false => exact hgap
    exact (hall _ hmem).ne_empty rfl
  · rw [hsegments]
    cases absolute with
    | true =>
      obtain rfl := hk rfl
      exact ⟨0, "" :: ns, rfl, by simpa using hup⟩
    | false => exact ⟨k, ns, hss, hup⟩
  · rw [habs, hsegments]
    rintro rfl
    obtain rfl := hk rfl
    simpa [hss] using hup

theorem isNormal_normal (p : String) : IsNormal (normal p) := by
  obtain ⟨k, ns, hkept, hns, hk⟩ := kept_eq_append p
  have hall : ∀ s ∈ kept p, IsKept s := fun s ↦ isKept_of_mem_kept
  rw [normal_eq_spell]
  by_cases hnil : kept p = []
  · rw [hnil]
    cases isAbsolute p with
    | true => exact isNormal_root
    | false => exact isNormal_here
  · rw [spell_eq hall, if_neg fun h ↦ hnil ((text_eq_empty_iff hall).1 h).2, hkept]
    exact isNormal_text hns hk (hkept ▸ hnil)

/-- Nothing is taken away from a run of `..` and names. -/
theorem foldl_climb_ups (k : Nat) :
    (List.replicate k "..").foldl (climb false) [] = List.replicate k ".." := by
  induction k with
  | zero => rfl
  | succ k ih =>
    rw [List.replicate_succ', List.foldl_append, ih, ← List.replicate_succ']
    cases k <;> rfl

theorem foldl_climb_names {absolute : Bool} {ns : List String} (hns : ".." ∉ ns) :
    ∀ stack : List String, ns.foldl (climb absolute) stack = ns.reverse ++ stack := by
  induction ns with
  | nil => exact fun stack ↦ rfl
  | cons n ns ih =>
    intro stack
    rw [List.mem_cons, not_or] at hns
    rw [List.foldl_cons, climb, if_neg (Ne.symm hns.1), ih hns.2, List.reverse_cons,
      List.append_assoc, List.singleton_append]

theorem IsNormal.normal_eq_of_relative {p : String} (h : IsNormal p)
    (habs : isAbsolute p = false) (hhere : p ≠ ".") : normal p = p := by
  have hroot : p ≠ "/" := by
    rintro rfl
    cases habs
  obtain ⟨k, ss, hsegments, hup⟩ := h.ups_first
  have hstay : ∀ s ∈ segments p, isStay s = false := by
    intro s hs
    refine isStay_eq_false_iff.2 ⟨?_, ?_⟩
    · rintro rfl
      have hgap := h.no_gap hroot
      rw [habs] at hgap
      exact hgap hs
    · rintro rfl
      exact h.no_dot hhere hs
  have hfilter : ((segments p).filter fun s ↦ !isStay s) = segments p :=
    List.filter_eq_self.2 fun s hs ↦ by rw [hstay s hs]; rfl
  have hkept : kept p = segments p := by
    rw [kept, hfilter, habs, hsegments, List.foldl_append, foldl_climb_ups, foldl_climb_names hup,
      List.reverse_append, List.reverse_reverse, List.reverse_replicate]
  rw [normal_eq_spell, habs, hkept, spell, if_neg Bool.false_ne_true, if_neg (segments_ne_nil p),
    joinSegments_segments]

theorem IsNormal.isCanonical {p : String} (h : IsNormal p) (habs : isAbsolute p = true)
    (hroot : p ≠ "/") : IsCanonical p := by
  obtain ⟨s, rest, hsegments⟩ := isAbsolute_iff_segments.1 habs
  have hne : s :: rest ≠ [] := List.cons_ne_nil s rest
  have hgap := h.no_gap hroot
  have hdot := h.no_dot (by rintro rfl; cases habs)
  have hup := h.no_up_at_root habs
  rw [hsegments, habs] at hgap
  rw [hsegments] at hdot hup
  refine ⟨s :: rest, fun n hn ↦ ⟨?_, ?_, ?_, ?_⟩, ?_⟩
  · rintro rfl
    exact hgap hn
  · rintro rfl
    exact hdot (List.mem_cons_of_mem _ hn)
  · rintro rfl
    exact hup (List.mem_cons_of_mem _ hn)
  · exact no_slash_of_mem_segments (p := p) (hsegments ▸ List.mem_cons_of_mem _ hn)
  · have hjoin := joinSegments_append (List.cons_ne_nil "" []) hne
    rw [joinSegments_singleton, String.empty_append, List.singleton_append, ← hsegments,
      joinSegments_segments] at hjoin
    exact hjoin

/-- **Paths without detours are the ones that are their own normal form.** -/
theorem isNormal_iff {p : String} : IsNormal p ↔ normal p = p := by
  refine ⟨fun h ↦ ?_, fun h ↦ h ▸ isNormal_normal p⟩
  cases habs : isAbsolute p with
  | true =>
    by_cases hroot : p = "/"
    · exact (hroot ▸ isCanonical_root : IsCanonical p).normal_eq
    · exact (h.isCanonical habs hroot).normal_eq
  | false =>
    by_cases hhere : p = "."
    · subst hhere
      decide
    · exact h.normal_eq_of_relative habs hhere

/-! ## The three ways agree -/

/-- The normal form of `other` as seen from `base`, computed on segments. -/
def lexical (base other : String) : String :=
  spell (isAbsolute (join base other)) (kept (join base other))

/-- **The normal form of a path.**  It is what the stack of segments comes to, and a path that is
kept as text comes to it without a stack.  There are no detours in it, and it begins at the root
when one of the two paths does. -/
theorem resolve_eq_lexical (base other : String) :
    resolve base other = lexical base other ∧ resolve base other = amended base other ∧
      IsNormal (resolve base other) ∧
      isAbsolute (resolve base other) = (isAbsolute other || isAbsolute base) := by
  have hkept : ∀ s ∈ kept (join base other), IsKept s := fun s ↦ isKept_of_mem_kept
  have hlexical : resolve base other = lexical base other := by
    rw [resolve_eq, normal_eq_spell, lexical]
  refine ⟨hlexical, ?_, ?_, ?_⟩
  · rw [hlexical, lexical, spell_eq hkept, amended, foldl_amend_components]
  · rw [resolve_eq]
    exact isNormal_normal _
  · rw [hlexical, lexical, isAbsolute_spell hkept, isAbsolute_join]

example : resolve "a/.//../../b" "../c/./" = "../c" := by decide

end HostOverlay.Path
