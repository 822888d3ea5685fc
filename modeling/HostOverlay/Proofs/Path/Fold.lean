import HostOverlay.Path.Normal
import HostOverlay.Proofs.Path.Segments

/-!
# Folding

`fold` runs over the steps of a path with a stack.  The stack always has the same shape: names on
top, and below them the root, if the path begins there, or else a run of `..`.  `IsFolded` says so,
`isFolded_push` that one more step keeps it, and `isFolded_foldl` that a whole path does.

`normal` is the spelling of the stack that a path leaves, and `resolve` the normal form of a joined
path.  Two things are read off it: `normal_congr`, that paths which say the same have the same
normal form, and `getLast?_segments_resolve`, that a name at the end of a path stays at the end.
-/

set_option autoImplicit false

namespace HostOverlay.Path

/-! ## The shape of the stack -/

/-- The bottom of the stack: the root for an absolute path, a run of `..` for a relative one. -/
def IsLead (absolute : Bool) (lead : List Component) : Prop :=
  if absolute then lead = [.root] else ∃ k, lead = List.replicate k .parent

/-- A stack, last step first, that has names on top and a lead below them. -/
def IsFolded (absolute : Bool) (stack : List Component) : Prop :=
  ∃ (ns : List String) (lead : List Component),
    stack = ns.map Component.name ++ lead ∧ (∀ n ∈ ns, IsName n) ∧ IsLead absolute lead

/-- The stack with which a path begins. -/
def origin (p : String) : List Component := if isAbsolute p then [.root] else []

theorem isFolded_origin (p : String) : IsFolded (isAbsolute p) (origin p) := by
  refine ⟨[], origin p, rfl, by simp, ?_⟩
  rw [IsLead, origin]
  split
  · rfl
  · exact ⟨0, rfl⟩

/-- One more move keeps the shape of the stack. -/
theorem isFolded_push {absolute : Bool} {stack : List Component} (h : IsFolded absolute stack)
    {c : Component} (hc : IsMove c) : IsFolded absolute (push stack c) := by
  obtain ⟨ns, lead, rfl, hns, hlead⟩ := h
  cases c with
  | root => exact hc.elim
  | current => exact hc.elim
  | name n => exact ⟨n :: ns, lead, rfl, List.forall_mem_cons.2 ⟨hc, hns⟩, hlead⟩
  | parent =>
    cases ns with
    | cons n ns => exact ⟨ns, lead, rfl, (List.forall_mem_cons.1 hns).2, hlead⟩
    | nil =>
      -- no name to take back: the lead decides
      cases absolute with
      | true =>
        obtain rfl : lead = [.root] := hlead
        exact ⟨[], [.root], rfl, hns, rfl⟩
      | false =>
        obtain ⟨k, rfl⟩ : ∃ k, lead = List.replicate k .parent := hlead
        refine ⟨[], List.replicate (k + 1) .parent, ?_, hns, ⟨k + 1, rfl⟩⟩
        cases k <;> rfl

theorem isFolded_foldl {absolute : Bool} {cs : List Component} (hcs : ∀ c ∈ cs, IsMove c) :
    ∀ {stack : List Component},
      IsFolded absolute stack → IsFolded absolute (cs.foldl push stack) := by
  induction cs with
  | nil => exact fun h ↦ h
  | cons c cs ih =>
    intro stack h
    rw [List.forall_mem_cons] at hcs
    exact ih hcs.2 (isFolded_push h hcs.1)

/-- Folding a path starts from its origin and runs over its moves. -/
theorem fold_components (p : String) :
    fold (components p) = ((moves p).foldl push (origin p)).reverse := by
  cases h : isAbsolute p with
  | true => rw [components_of_isAbsolute h, fold, List.foldl_cons, origin, h]; rfl
  | false =>
    rw [origin, h]
    rcases components_of_relative h with hc | hc <;> rw [hc, fold]
    · rfl
    · rfl

/-- The stack that the normal form of a path is the spelling of. -/
def folded (p : String) : List Component := (moves p).foldl push (origin p)

/-- The normal form of a path. -/
def normal (p : String) : String := render (folded p).reverse

theorem resolve_eq (base other : String) : resolve base other = normal (join base other) := by
  rw [resolve, fold_components, normal, folded]

/-- Paths that say the same have the same normal form. -/
theorem normal_congr {p q : String} (habs : isAbsolute p = isAbsolute q) (h : moves p = moves q) :
    normal p = normal q := by
  rw [normal, normal, folded, folded, origin, origin, habs, h]

/-- Paths that say the same can stand for each other, in front and behind. -/
theorem resolve_congr {b b' p p' : String} (hb : isAbsolute b = isAbsolute b')
    (hbase : moves b = moves b') (hp : isAbsolute p = isAbsolute p') (hpath : moves p = moves p') :
    resolve b p = resolve b' p' := by
  rw [resolve_eq, resolve_eq]
  refine normal_congr (by rw [isAbsolute_join, isAbsolute_join, hb, hp]) ?_
  cases h : isAbsolute p with
  | true => rw [join_of_isAbsolute h, join_of_isAbsolute (hp ▸ h), hpath]
  | false => rw [moves_join h, moves_join (hp ▸ h), hbase, hpath]

/-- A slash at the end of a path makes no difference. -/
theorem resolve_append_slash (b : String) {p : String} (hp : p ≠ "") :
    resolve b (p ++ "/") = resolve b p :=
  resolve_congr rfl rfl (isAbsolute_append hp "/") (moves_append_slash p)

theorem isFolded_folded (p : String) : IsFolded (isAbsolute p) (folded p) :=
  isFolded_foldl (fun _ h ↦ isMove_of_mem_moves h) (isFolded_origin p)

/-! ## The spelling of a stack -/

theorem map_spelling_name (ns : List String) :
    (ns.map Component.name).map Component.spelling = ns := by
  simp [Function.comp_def, Component.spelling]

/-- The stack of an absolute path is spelt as names behind the root. -/
theorem render_of_isFolded_true {stack : List Component} (h : IsFolded true stack) :
    ∃ ns : List String, (∀ n ∈ ns, IsName n) ∧ stack.reverse = .root :: ns.map Component.name ∧
      render stack.reverse = "/" ++ joinSegments ns := by
  obtain ⟨ns, lead, rfl, hns, hlead⟩ := h
  obtain rfl : lead = [.root] := hlead
  have hrev : (ns.map Component.name ++ [Component.root]).reverse =
      .root :: ns.reverse.map Component.name := by simp
  refine ⟨ns.reverse, fun n hn ↦ hns n (List.mem_reverse.1 hn), hrev, ?_⟩
  rw [hrev, render, map_spelling_name]

/-- The stack of a relative path is spelt as its segments, if there are any. -/
theorem render_of_isFolded_false {stack : List Component} (h : IsFolded false stack)
    (hne : stack ≠ []) :
    ∃ ss : List String, (∀ s ∈ ss, s = ".." ∨ IsName s) ∧ ss ≠ [] ∧
      stack.reverse = ss.map Component.ofSegment ∧ render stack.reverse = joinSegments ss := by
  obtain ⟨ns, lead, rfl, hns, hlead⟩ := h
  obtain ⟨k, rfl⟩ : ∃ k, lead = List.replicate k .parent := hlead
  set ss := List.replicate k ".." ++ ns.reverse with hss
  have hmem : ∀ s ∈ ss, s = ".." ∨ IsName s := by
    intro s hs
    rcases List.mem_append.1 hs with hs | hs
    · exact Or.inl (List.eq_of_mem_replicate hs)
    · exact Or.inr (hns s (List.mem_reverse.1 hs))
  have hstack : (ns.map Component.name ++ List.replicate k Component.parent).reverse =
      ss.map Component.ofSegment := by
    have hnames : ns.reverse.map Component.ofSegment = ns.reverse.map Component.name :=
      List.map_congr_left fun n hn ↦ (hns n (List.mem_reverse.1 hn)).ofSegment
    rw [hss, List.map_append, hnames, List.map_replicate, List.reverse_append,
      List.reverse_replicate, List.map_reverse]
    rfl
  have hssne : ss ≠ [] := by
    intro hnil
    rw [hnil, List.map_nil, List.reverse_eq_nil_iff] at hstack
    exact hne hstack
  refine ⟨ss, hmem, hssne, hstack, ?_⟩
  have hspell : (ss.map Component.ofSegment).map Component.spelling = ss := by
    rw [List.map_map]
    refine (List.map_congr_left fun s hs ↦ ?_).trans (List.map_id ss)
    rcases hmem s hs with rfl | hname
    · rfl
    · rw [Function.comp_apply, hname.ofSegment]
      rfl
  obtain ⟨s, rest, hcons⟩ := List.exists_cons_of_ne_nil hssne
  rw [hstack]
  conv_rhs => rw [← hspell]
  rcases hmem s (hcons ▸ List.mem_cons_self) with rfl | hname
  · rw [hcons]
    rfl
  · rw [hcons, List.map_cons, hname.ofSegment]
    rfl

/-- **The name on top of a stack is the last segment of its spelling.** -/
theorem getLast?_segments_render {absolute : Bool} {n : String} {stack : List Component}
    (h : IsFolded absolute (.name n :: stack)) :
    (segments (render (Component.name n :: stack).reverse)).getLast? = some n := by
  cases absolute with
  | true =>
    obtain ⟨ns, hns, hrev, hrender⟩ := render_of_isFolded_true h
    rw [hrender, segments_root_append]
    have hlast : (Component.root :: ns.map Component.name).getLast? = some (.name n) := by
      rw [← hrev, List.getLast?_reverse, List.head?_cons]
    rcases List.eq_nil_or_concat ns with rfl | ⟨ms, m, rfl⟩
    · cases hlast
    · rw [List.concat_eq_append] at hns hlast ⊢
      rw [List.map_append, List.map_singleton, ← List.cons_append, List.getLast?_concat,
        Option.some_inj, Component.name.injEq] at hlast
      rw [segments_joinSegments (by simp) fun s hs ↦ (hns s hs).no_slash, ← List.cons_append,
        List.getLast?_concat, hlast]
  | false =>
    obtain ⟨ss, hss, hne, hrev, hrender⟩ := render_of_isFolded_false h (List.cons_ne_nil _ _)
    have hfree : ∀ s ∈ ss, '/' ∉ s.toList := by
      intro s hs
      rcases hss s hs with rfl | hname
      · decide
      · exact hname.no_slash
    rw [hrender, segments_joinSegments hne hfree]
    have hlast : (ss.map Component.ofSegment).getLast? = some (.name n) := by
      rw [← hrev, List.getLast?_reverse, List.head?_cons]
    obtain ⟨s, hs, hsn⟩ := Option.map_eq_some_iff.1 (List.getLast?_map ▸ hlast)
    rcases hss s (List.mem_of_getLast? hs) with rfl | hname
    · cases hsn
    · rw [hname.ofSegment, Component.name.injEq] at hsn
      rw [hs, hsn]

/-! ## A name at the end of a path -/

theorem moves_of_getLast? {p n : String} (hlast : (segments p).getLast? = some n)
    (hn : IsName n) : ∃ cs, moves p = cs ++ [.name n] := by
  obtain ⟨ss, hss⟩ := List.getLast?_eq_some_iff.1 hlast
  refine ⟨steps ss, ?_⟩
  rw [moves, hss, steps_append, steps_cons_move hn.isStay, hn.ofSegment, steps_nil]

/-- A name at the end of a path is its last step. -/
theorem getLast?_components {p n : String} (hlast : (segments p).getLast? = some n)
    (hn : IsName n) : (components p).getLast? = some (.name n) := by
  obtain ⟨cs, hcs⟩ := moves_of_getLast? hlast hn
  cases h : isAbsolute p with
  | true => rw [components_of_isAbsolute h, hcs, ← List.cons_append, List.getLast?_concat]
  | false =>
    rcases components_of_relative h with hc | hc
    · rw [hc, hcs, List.getLast?_concat]
    · rw [hc, hcs, ← List.cons_append, List.getLast?_concat]

/-- **Folding never touches a name at the end of a path**: nothing comes behind it that could take
it back. -/
theorem getLast?_segments_resolve (base : String) {p n : String}
    (hlast : (segments p).getLast? = some n) (hn : IsName n) :
    (segments (resolve base p)).getLast? = some n := by
  obtain ⟨cs, hcs⟩ := moves_of_getLast? hlast hn
  obtain ⟨ds, hds⟩ : ∃ ds, moves (join base p) = ds ++ [.name n] := by
    cases h : isAbsolute p with
    | true => exact ⟨cs, by rw [join_of_isAbsolute h, hcs]⟩
    | false => exact ⟨moves base ++ cs, by rw [moves_join h, hcs, List.append_assoc]⟩
  have hfolded : folded (join base p) = .name n :: ds.foldl push (origin (join base p)) := by
    rw [folded, hds, List.foldl_append]
    rfl
  have hshape := isFolded_folded (join base p)
  rw [hfolded] at hshape
  rw [resolve_eq, normal, hfolded]
  exact getLast?_segments_render hshape

end HostOverlay.Path
