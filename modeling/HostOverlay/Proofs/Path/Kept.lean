import HostOverlay.Proofs.Path.Fold

/-!
# The segments that are left of a path

Folding runs over steps.  Here it runs over segments, as texts: what is left is `kept p`, and
`spell` puts slashes between it.  So the normal form of a path is seen to be made of segments of the
path, with nothing added to them.

* `folded_eq`: the stack of steps is the stack of segments, on top of where the path begins.
* `normal_eq_spell`: the normal form of a path is the spelling of the segments that are kept.
* `kept_eq_append`: they are a run of `..`, in a relative path only, and then names.
* `kept_sublist`: they are some of the segments of the path, in their order.
* `join_text`, `parent?_text`, `components_text`: how the operations on paths act on the text of
  such segments.  These are exact, where `moves_join` and `parent?_spec` speak of moves only.
-/

set_option autoImplicit false

namespace HostOverlay.Path

/-! ## A stack of segments -/

/-- A `..` takes away the name on top of a stack of segments; where there is none, it is lost at the
root and kept in a relative path. -/
def up (absolute : Bool) : List String → List String
  | [] => if absolute then [] else [".."]
  | top :: rest => if top = ".." then ".." :: top :: rest else rest

/-- One more segment for a stack of segments, last one first. -/
def climb (absolute : Bool) (stack : List String) (s : String) : List String :=
  if s = ".." then up absolute stack else s :: stack

/-- The segments that are left of a path when the ones that stay are dropped and each `..` has taken
away what it can. -/
def kept (p : String) : List String :=
  (((segments p).filter fun s ↦ !isStay s).foldl (climb (isAbsolute p)) []).reverse

/-- Segments with slashes between them, behind the root or from where one is.  Nowhere to go from
there is spelt `.`. -/
def spell (absolute : Bool) (ss : List String) : String :=
  if absolute then "/" ++ joinSegments ss
  else if ss = [] then "." else joinSegments ss

/-! ## The two stacks -/

theorem ofSegment_up : Component.ofSegment ".." = .parent := if_pos rfl

theorem ofSegment_of_ne {s : String} (h : s ≠ "..") : Component.ofSegment s = .name s := if_neg h

theorem map_ofSegment_names {ns : List String} (h : ∀ n ∈ ns, IsName n) :
    ns.map Component.ofSegment = ns.map Component.name :=
  List.map_congr_left fun n hn ↦ (h n hn).ofSegment

theorem spelling_ofSegment (s : String) : (Component.ofSegment s).spelling = s := by
  rw [Component.ofSegment]
  split
  · rename_i h
    exact h.symm
  · rfl

theorem map_spelling_ofSegment (ss : List String) :
    (ss.map Component.ofSegment).map Component.spelling = ss := by
  simp [Function.comp_def, spelling_ofSegment]

/-- What one segment does to the stack of segments, its step does to the stack of steps. -/
theorem push_ofSegment (p : String) (stack : List String) (s : String) :
    push (stack.map Component.ofSegment ++ origin p) (Component.ofSegment s) =
      (climb (isAbsolute p) stack s).map Component.ofSegment ++ origin p := by
  by_cases hs : s = ".."
  · subst hs
    rw [climb, if_pos rfl, ofSegment_up]
    cases stack with
    | nil =>
      rw [origin, up]
      cases isAbsolute p <;> rfl
    | cons top rest =>
      rw [up]
      by_cases htop : top = ".."
      · subst htop
        rfl
      · rw [if_neg htop, List.map_cons, ofSegment_of_ne htop]
        rfl
  · rw [climb, if_neg hs, List.map_cons, ofSegment_of_ne hs]
    rfl

theorem foldl_push_ofSegment (p : String) (ss : List String) : ∀ stack : List String,
    (ss.map Component.ofSegment).foldl push (stack.map Component.ofSegment ++ origin p) =
      (ss.foldl (climb (isAbsolute p)) stack).map Component.ofSegment ++ origin p := by
  induction ss with
  | nil => exact fun stack ↦ rfl
  | cons s ss ih =>
    intro stack
    rw [List.map_cons, List.foldl_cons, List.foldl_cons, push_ofSegment, ih]

/-- **The steps that are left are the segments that are kept**, behind where the path begins. -/
theorem folded_eq (p : String) :
    (folded p).reverse = origin p ++ (kept p).map Component.ofSegment := by
  have h := foldl_push_ofSegment p ((segments p).filter fun s ↦ !isStay s) []
  rw [List.map_nil, List.nil_append] at h
  rw [folded, moves, steps, h, kept, List.reverse_append, List.map_reverse, origin]
  cases isAbsolute p <;> rfl

theorem render_root (cs : List Component) :
    render (.root :: cs) = "/" ++ joinSegments (cs.map Component.spelling) := rfl

theorem render_ofSegment (s : String) (cs : List Component) :
    render (Component.ofSegment s :: cs) =
      joinSegments (s :: cs.map Component.spelling) := by
  rw [Component.ofSegment]
  split
  · rename_i hs
    rw [hs]
    rfl
  · rfl

/-- **The normal form is the spelling of what is kept.** -/
theorem normal_eq_spell (p : String) : normal p = spell (isAbsolute p) (kept p) := by
  rw [normal, folded_eq, origin, spell]
  cases isAbsolute p with
  | true => rw [if_pos rfl, if_pos rfl, List.singleton_append, render_root, map_spelling_ofSegment]
  | false =>
    rw [if_neg Bool.false_ne_true, if_neg Bool.false_ne_true, List.nil_append]
    cases kept p with
    | nil => rfl
    | cons s ss =>
      rw [List.map_cons, render_ofSegment, map_spelling_ofSegment, if_neg (List.cons_ne_nil s ss)]

/-! ## What is kept -/

/-- A segment that can be kept: the way up, or a name. -/
def IsKept (s : String) : Prop := s = ".." ∨ IsName s

theorem IsKept.no_slash {s : String} (h : IsKept s) : '/' ∉ s.toList := by
  rcases h with rfl | h
  · decide
  · exact h.no_slash

theorem IsKept.isStay {s : String} (h : IsKept s) : isStay s = false := by
  rcases h with rfl | h
  · decide
  · exact h.isStay

theorem IsKept.ne_empty {s : String} (h : IsKept s) : s ≠ "" := (isStay_eq_false_iff.1 h.isStay).1

theorem IsKept.ne_dot {s : String} (h : IsKept s) : s ≠ "." := (isStay_eq_false_iff.1 h.isStay).2

/-- **A run of `..` and then names**; behind the root there is no `..`. -/
theorem kept_eq_append (p : String) : ∃ (k : Nat) (ns : List String),
    kept p = List.replicate k ".." ++ ns ∧ (∀ n ∈ ns, IsName n) ∧
      (isAbsolute p = true → k = 0) := by
  obtain ⟨ns, lead, hfolded, hns, hlead⟩ := isFolded_folded p
  have hkept : ∀ {ss : List String},
      (kept p).map Component.ofSegment = ss.map Component.ofSegment → kept p = ss := by
    intro ss h
    rw [← map_spelling_ofSegment (kept p), h, map_spelling_ofSegment]
  have hrev : ∀ n ∈ ns.reverse, IsName n := fun n hn ↦ hns n (List.mem_reverse.1 hn)
  have heq := folded_eq p
  rw [hfolded, List.reverse_append, ← List.map_reverse, ← map_ofSegment_names hrev, origin] at heq
  cases habs : isAbsolute p with
  | true =>
    obtain rfl : lead = [.root] := by simpa [IsLead, habs] using hlead
    refine ⟨0, ns.reverse, hkept ?_, hrev, fun _ ↦ rfl⟩
    simpa [habs] using heq.symm
  | false =>
    obtain ⟨k, rfl⟩ : ∃ k, lead = List.replicate k .parent := by simpa [IsLead, habs] using hlead
    refine ⟨k, ns.reverse, hkept ?_, hrev, by simp⟩
    rw [List.map_append, List.map_replicate, ofSegment_up]
    simpa [habs] using heq.symm

theorem isKept_of_mem_kept {p s : String} (h : s ∈ kept p) : IsKept s := by
  obtain ⟨k, ns, hkept, hns, -⟩ := kept_eq_append p
  rw [hkept] at h
  rcases List.mem_append.1 h with h | h
  · exact .inl (List.eq_of_mem_replicate h)
  · exact .inr (hns s h)

theorem up_sublist (absolute : Bool) (stack : List String) :
    (up absolute stack).Sublist (".." :: stack) := by
  cases stack with
  | nil =>
    rw [up]
    cases absolute with
    | true => exact List.nil_sublist _
    | false => exact List.Sublist.refl _
  | cons top rest =>
    rw [up]
    split
    · exact List.Sublist.refl _
    · exact (List.sublist_cons_self _ _).trans (List.sublist_cons_self _ _)

theorem climb_sublist (absolute : Bool) (stack : List String) (s : String) :
    (climb absolute stack s).Sublist (s :: stack) := by
  rw [climb]
  split
  · rename_i hs
    exact hs ▸ up_sublist absolute stack
  · exact List.Sublist.refl _

theorem foldl_climb_sublist (absolute : Bool) (ss : List String) : ∀ stack : List String,
    (ss.foldl (climb absolute) stack).Sublist (ss.reverse ++ stack) := by
  induction ss with
  | nil => exact fun stack ↦ List.Sublist.refl _
  | cons s ss ih =>
    intro stack
    rw [List.foldl_cons, List.reverse_cons, List.append_assoc]
    exact (ih _).trans ((climb_sublist absolute stack s).append_left _)

/-- **What is kept has been in the path**, in the same order. -/
theorem kept_sublist (p : String) : (kept p).Sublist (segments p) := by
  have h := foldl_climb_sublist (isAbsolute p) ((segments p).filter fun s ↦ !isStay s) []
  rw [List.append_nil] at h
  exact (List.reverse_sublist.1 (by rwa [kept, List.reverse_reverse])).trans List.filter_sublist

/-! ## The spelling of what is kept -/

/-- The text of a path that is still being written: nothing, as long as it has gone nowhere from
where one is. -/
def text (absolute : Bool) (ss : List String) : String :=
  if absolute then "/" ++ joinSegments ss else joinSegments ss

section

variable (absolute : Bool) {ss : List String} (hss : ∀ s ∈ ss, IsKept s)

include hss

theorem steps_of_isKept : steps ss = ss.map Component.ofSegment := by
  have hfilter : (ss.filter fun s ↦ !isStay s) = ss :=
    List.filter_eq_self.2 fun s hs ↦ by rw [(hss s hs).isStay]; rfl
  rw [steps, hfilter]

theorem isAbsolute_text : isAbsolute (text absolute ss) = absolute := by
  rw [text]
  cases absolute with
  | true => exact isAbsolute_root_append _
  | false =>
    refine isAbsolute_joinSegments (fun s hs ↦ (hss s hs).no_slash) ?_
    rintro s rest rfl
    exact (hss "" List.mem_cons_self).ne_empty rfl

theorem segments_text (hne : ss ≠ []) :
    segments (text absolute ss) = if absolute then "" :: ss else ss := by
  have hjoin := segments_joinSegments hne fun s hs ↦ (hss s hs).no_slash
  rw [text]
  cases absolute with
  | true => rw [if_pos rfl, if_pos rfl, segments_root_append, hjoin]
  | false => rw [if_neg Bool.false_ne_true, if_neg Bool.false_ne_true, hjoin]

theorem moves_text : moves (text absolute ss) = ss.map Component.ofSegment := by
  have hjoin : moves (joinSegments ss) = ss.map Component.ofSegment := by
    rw [moves_joinSegments fun s hs ↦ (hss s hs).no_slash, steps_of_isKept hss]
  rw [text]
  cases absolute with
  | true => rw [if_pos rfl, moves_root_append, hjoin]
  | false => rw [if_neg Bool.false_ne_true, hjoin]

variable {absolute}

theorem text_eq_empty_iff : text absolute ss = "" ↔ absolute = false ∧ ss = [] := by
  constructor
  · intro h
    have habs := isAbsolute_text absolute hss
    rw [h] at habs
    refine ⟨habs.symm, ?_⟩
    have hmoves := moves_text absolute hss
    rw [h, moves_empty] at hmoves
    exact List.map_eq_nil_iff.1 hmoves.symm
  · rintro ⟨rfl, rfl⟩
    decide

/-- The spelling of what is kept is its text, unless there is none. -/
theorem spell_eq : spell absolute ss = if text absolute ss = "" then "." else text absolute ss := by
  by_cases h : absolute = false ∧ ss = []
  · obtain ⟨rfl, rfl⟩ := h
    decide
  · rw [if_neg (mt (text_eq_empty_iff hss).1 h), spell, text]
    cases absolute with
    | true => rfl
    | false => rw [if_neg Bool.false_ne_true, if_neg fun hnil ↦ h ⟨rfl, hnil⟩]; rfl

theorem spell_ne_empty : spell absolute ss ≠ "" := by
  rw [spell_eq hss]
  split
  · decide
  · assumption

theorem isAbsolute_spell : isAbsolute (spell absolute ss) = absolute := by
  rw [spell_eq hss]
  split
  · rename_i h
    obtain ⟨rfl, -⟩ := (text_eq_empty_iff hss).1 h
    decide
  · exact isAbsolute_text _ hss

theorem moves_spell : moves (spell absolute ss) = ss.map Component.ofSegment := by
  rw [spell_eq hss]
  split
  · rename_i h
    obtain ⟨-, rfl⟩ := (text_eq_empty_iff hss).1 h
    decide
  · exact moves_text _ hss

/-- A path that is being written has the steps that have been put into it. -/
theorem components_text : components (text absolute ss) =
    (if absolute then [.root] else []) ++ ss.map Component.ofSegment := by
  cases absolute with
  | true => rw [components_of_isAbsolute (isAbsolute_text _ hss), moves_text _ hss]; rfl
  | false =>
    cases hcons : ss with
    | nil => decide
    | cons s rest =>
      have hs : IsKept s := hss s (hcons ▸ List.mem_cons_self)
      have habs := isAbsolute_text false hss
      have hsegments : segments (text false ss) = s :: rest := by
        rw [segments_text _ hss (by simp [hcons]), hcons]
        rfl
      rw [← hcons, components, hsegments]
      simp only [habs, Bool.false_eq_true, if_false, hs.ne_dot, List.nil_append]
      rw [← hcons, steps_of_isKept hss]

/-- Behind what has been written there is no slash yet, but for the root alone. -/
theorem hasTrailingSlash_text (hne : ss ≠ []) : hasTrailingSlash (text absolute ss) = false := by
  rw [Bool.eq_false_iff]
  intro hslash
  obtain ⟨q, hq⟩ := hasTrailingSlash_iff.1 hslash
  obtain ⟨ts, t, rfl⟩ := List.eq_nil_or_concat ss |>.resolve_left hne
  rw [List.concat_eq_append] at hss hne hq
  have hlast : (segments (text absolute (ts ++ [t]))).getLast? = some t := by
    rw [segments_text _ hss hne]
    cases absolute with
    | true => rw [if_pos rfl, ← List.cons_append, List.getLast?_concat]
    | false => rw [if_neg Bool.false_ne_true, List.getLast?_concat]
  rw [hq, segments_append_slash, List.getLast?_concat, Option.some_inj] at hlast
  exact (hss t (by simp)).ne_empty hlast.symm

/-- One more segment is joined on. -/
theorem join_text {s : String} (hs : IsKept s) :
    join (text absolute ss) s = text absolute (ss ++ [s]) := by
  have hrel : isAbsolute s = false := isAbsolute_of_no_slash hs.no_slash
  by_cases hnil : ss = []
  · subst hnil
    cases absolute with
    | true =>
      have hroot : hasTrailingSlash (text true []) = true := by decide
      simp only [join, hrel, hroot, Bool.false_eq_true, if_false, Bool.or_true, if_true]
      simp [text, joinSegments]
    | false => simp [join, hrel, text, joinSegments]
  · have hne : text absolute ss ≠ "" := fun h ↦ hnil ((text_eq_empty_iff hss).1 h).2
    simp only [join, hrel, hne, hasTrailingSlash_text hss hnil, Bool.false_eq_true, if_false,
      decide_false, Bool.false_or]
    rw [text, text, joinSegments_append hnil (List.cons_ne_nil s []), joinSegments_singleton]
    cases absolute with
    | true => simp [String.append_assoc]
    | false => rfl

theorem trimStays_of_isKept : trimStays ss = ss := by
  rcases List.eq_nil_or_concat ss with rfl | ⟨ts, t, rfl⟩
  · rfl
  · have hstay : isStay t = false := (hss t (by simp)).isStay
    simp [trimStays, hstay]

/-- What is in front of a name is its parent. -/
theorem parent?_text {n : String} (hn : IsName n) :
    parent? (text absolute (ss ++ [n])) = some (text absolute ss) := by
  have hall : ∀ s ∈ ss ++ [n], IsKept s :=
    List.forall_mem_append.2 ⟨hss, List.forall_mem_singleton.2 (Or.inr hn)⟩
  have hne : ss ++ [n] ≠ [] := by simp
  have habs := isAbsolute_text absolute hall
  have hsegments := segments_text absolute hall hne
  have htrim : trimStays (trimStays (ss ++ [n])).dropLast = ss := by
    rw [trimStays_of_isKept hall, List.dropLast_concat, trimStays_of_isKept hss]
  cases absolute with
  | true =>
    rw [if_pos rfl] at hsegments
    simp only [parent?, hsegments, habs, if_true]
    split
    · rename_i hnil
      exact absurd (trimStays_of_isKept hall ▸ hnil) hne
    · rw [htrim]
      rfl
  | false =>
    rw [if_neg Bool.false_ne_true] at hsegments
    obtain ⟨s, rest, hcons⟩ := List.exists_cons_of_ne_nil hne
    have hdot : s ≠ "." := (hall s (hcons ▸ List.mem_cons_self)).ne_dot
    replace hsegments := hsegments.trans hcons
    simp only [parent?, hsegments, habs, Bool.false_eq_true, if_false, hdot]
    rw [← hcons]
    split
    · rename_i hnil
      exact absurd (trimStays_of_isKept hall ▸ hnil) hne
    · rw [htrim]
      rfl

end

/-! ## What a normal form says -/

theorem isAbsolute_normal (p : String) : isAbsolute (normal p) = isAbsolute p := by
  rw [normal_eq_spell, isAbsolute_spell fun s ↦ isKept_of_mem_kept]

theorem moves_normal (p : String) : moves (normal p) = (kept p).map Component.ofSegment := by
  rw [normal_eq_spell, moves_spell fun s ↦ isKept_of_mem_kept]

end HostOverlay.Path
