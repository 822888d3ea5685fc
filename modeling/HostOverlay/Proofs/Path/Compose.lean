import HostOverlay.Proofs.Path.Lexical

/-!
# Folding early and folding late

A path is often put together from parts, and each part may be folded before it is joined to the
next.  That is safe on both sides: where a path has been folded already, in front or behind, folding
the whole gives what it would have given without.

The two sides are different.  What stands in front leaves its stack to what comes behind, and
`folded_normal` says that a normal form leaves the same stack as the path itself.  What stands
behind may go up further than it has come down, before it is known what is in front; such a `..` is
kept, and takes its name away later.  So `foldl_push_moves_normal` is about any stack to start with,
and `foldl_push_push` is the step from which it follows.

* `join_assoc`: joining is associative, to the letter.
* `normal_join_normal_left`, `normal_join_normal_right`: one side each.
* `resolve_resolve` says it of `resolve`, together with idempotence.
-/

set_option autoImplicit false

namespace HostOverlay.Path

/-! ## Joining three paths -/

/-- What stands between a path and a relative path that is joined to it. -/
def separator (p : String) : String := if p = "" || hasTrailingSlash p then "" else "/"

theorem join_eq_append {q : String} (h : isAbsolute q = false) (p : String) :
    join p q = p ++ separator p ++ q := by
  simp only [join, h, separator, Bool.false_eq_true, if_false]
  split
  · rw [String.append_empty]
  · rfl

theorem join_empty_left (p : String) : join "" p = p := by
  simp [join]

/-- A separator is needed once only. -/
theorem separator_append_separator (p : String) : separator (p ++ separator p) = "" := by
  by_cases h : (p = "" || hasTrailingSlash p) = true
  · have hnone : separator p = "" := if_pos h
    rw [hnone, String.append_empty, hnone]
  · have hslash : separator p = "/" := if_neg h
    have htrailing : hasTrailingSlash (p ++ "/") = true := hasTrailingSlash_iff.2 ⟨p, rfl⟩
    rw [hslash, separator, htrailing, Bool.or_true, if_pos rfl]

theorem separator_append (p : String) {q : String} (hq : q ≠ "") :
    separator (p ++ q) = separator q := by
  have hne : p ++ q ≠ "" := by simp [hq]
  rw [separator, separator, hasTrailingSlash_append p hq]
  simp [hne, hq]

theorem join_assoc (a b c : String) : join (join a b) c = join a (join b c) := by
  cases hc : isAbsolute c with
  | true => rw [join_of_isAbsolute hc, join_of_isAbsolute hc, join_of_isAbsolute hc]
  | false =>
    cases hb : isAbsolute b with
    | true =>
      have hbc : isAbsolute (join b c) = true := by rw [isAbsolute_join, hb, Bool.or_true]
      rw [join_of_isAbsolute hb, join_of_isAbsolute hbc]
    | false =>
      have hbc : isAbsolute (join b c) = false := by rw [isAbsolute_join, hb, hc, Bool.false_or]
      rw [join_eq_append hbc, join_eq_append hc, join_eq_append hc, join_eq_append hb]
      by_cases hempty : b = ""
      · subst hempty
        have hnone : separator "" = "" := by decide
        rw [String.append_empty, separator_append_separator, hnone, String.append_empty,
          String.empty_append, String.empty_append]
      · rw [separator_append _ hempty]
        simp only [String.append_assoc]

/-! ## Going on from a stack -/

/-- A step on top of a folded stack can be taken before the stack is put on another one, or
behind it. -/
theorem foldl_push_push {folded : List Component} (h : IsFolded false folded) {c : Component}
    (hc : IsMove c) (stack : List Component) :
    (push folded c).reverse.foldl push stack = push (folded.reverse.foldl push stack) c := by
  obtain ⟨ns, lead, rfl, -, hlead⟩ := h
  cases c with
  | root => exact hc.elim
  | current => exact hc.elim
  | name n =>
    have hpush : push (ns.map Component.name ++ lead) (.name n) =
        .name n :: (ns.map Component.name ++ lead) := rfl
    rw [hpush, List.reverse_cons, List.foldl_append]
    rfl
  | parent =>
    cases ns with
    | cons n ns =>
      -- the name that is taken back has just been put on
      have hpush : push ((n :: ns).map Component.name ++ lead) .parent =
          ns.map Component.name ++ lead := rfl
      rw [hpush, List.map_cons, List.cons_append, List.reverse_cons, List.foldl_append]
      rfl
    | nil =>
      obtain ⟨k, rfl⟩ : ∃ k, lead = List.replicate k .parent := hlead
      have hpush : push (List.replicate k .parent) .parent =
          .parent :: List.replicate k .parent := by
        cases k <;> rfl
      rw [List.map_nil, List.nil_append, hpush, List.reverse_cons, List.foldl_append]
      rfl

/-- **Folded moves do to any stack what the moves do.** -/
theorem foldl_push_fold {cs : List Component} (hcs : ∀ c ∈ cs, IsMove c) (stack : List Component) :
    (cs.foldl push []).reverse.foldl push stack = cs.foldl push stack := by
  induction cs using List.reverseRecOn with
  | nil => rfl
  | append_singleton cs c ih =>
    rw [List.forall_mem_append, List.forall_mem_singleton] at hcs
    have hfolded : IsFolded false (cs.foldl push []) :=
      isFolded_foldl hcs.1 ⟨[], [], rfl, by simp, 0, rfl⟩
    rw [List.foldl_append, List.foldl_append, List.foldl_cons, List.foldl_nil, List.foldl_cons,
      List.foldl_nil, foldl_push_push hfolded hcs.2, ih hcs.1]

theorem foldl_push_moves_normal {p : String} (h : isAbsolute p = false) (stack : List Component) :
    (moves (normal p)).foldl push stack = (moves p).foldl push stack := by
  have hfolded := folded_eq p
  rw [folded, origin, h, if_neg Bool.false_ne_true, List.nil_append] at hfolded
  rw [moves_normal, ← hfolded, foldl_push_fold fun c ↦ isMove_of_mem_moves]

/-- **A normal form leaves the stack that the path leaves.** -/
theorem folded_normal (p : String) : folded (normal p) = folded p := by
  cases h : isAbsolute p with
  | true =>
    obtain ⟨k, ns, hkept, hns, hk⟩ := kept_eq_append p
    obtain rfl := hk h
    have hnames : (kept p).map Component.ofSegment = ns.map Component.name := by
      rw [hkept]
      exact map_ofSegment_names hns
    have hfolded := folded_eq p
    rw [hnames] at hfolded
    rw [folded, moves_normal, hnames, foldl_push_names, ← List.reverse_reverse (folded p), hfolded,
      List.reverse_append, origin, origin, isAbsolute_normal, h]
    rfl
  | false =>
    have horigin : origin (normal p) = origin p := by rw [origin, origin, isAbsolute_normal]
    rw [folded, foldl_push_moves_normal h, horigin, folded]

/-- The normal form is read off the stack. -/
theorem normal_eq_of_folded_eq {p q : String} (h : folded p = folded q) : normal p = normal q := by
  rw [normal, h, normal]

/-- What is joined to a path goes on from its stack. -/
theorem folded_join {q : String} (h : isAbsolute q = false) (p : String) :
    folded (join p q) = (moves q).foldl push (folded p) := by
  have horigin : origin (join p q) = origin p := by
    rw [origin, origin, isAbsolute_join, h, Bool.false_or]
  rw [folded, moves_join h, List.foldl_append, horigin, folded]

/-! ## Either side of a joined path -/

theorem normal_normal (p : String) : normal (normal p) = normal p :=
  isNormal_iff.1 (isNormal_normal p)

theorem normal_join_normal_left (p q : String) :
    normal (join (normal p) q) = normal (join p q) := by
  cases h : isAbsolute q with
  | true => rw [join_of_isAbsolute h, join_of_isAbsolute h]
  | false =>
    refine normal_eq_of_folded_eq ?_
    rw [folded_join h, folded_join h, folded_normal]

theorem normal_join_normal_right (p q : String) :
    normal (join p (normal q)) = normal (join p q) := by
  have habs := isAbsolute_normal q
  cases h : isAbsolute q with
  | true => rw [join_of_isAbsolute (habs.trans h), join_of_isAbsolute h, normal_normal]
  | false =>
    refine normal_eq_of_folded_eq ?_
    rw [folded_join (habs.trans h), folded_join h, foldl_push_moves_normal h]

/-- **Parts of a path can be folded before they are joined**, in front and behind, and folding twice
is folding once. -/
theorem resolve_resolve (d b r s : String) :
    resolve (resolve b r) s = resolve (join b r) s ∧
      resolve d (resolve b r) = resolve (join d b) r ∧
      resolve "" (resolve b r) = resolve b r := by
  simp only [resolve_eq]
  refine ⟨normal_join_normal_left _ _, ?_, ?_⟩
  · rw [normal_join_normal_right, join_assoc]
  · rw [join_empty_left, normal_normal]

example : resolve "/a" (resolve "b/.." "../../c") = "/c" := by decide

end HostOverlay.Path
