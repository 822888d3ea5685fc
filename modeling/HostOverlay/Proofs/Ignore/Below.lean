import HostOverlay.Ignore.Scope
import HostOverlay.Proofs.Disk.Lookup

/-!
# The path that rules see

Rules see an entry by what is left of its path when that of their directory is taken off the front,
as both are written.  What is taken off goes by text, not by names, and a `./` in front of either
path goes first.  However the root of a walk is spelt, an entry in or below the directory keeps its
own name at the end.

* `segments_append`: the segments of a text with another one behind it.
* `getLast?_segments_below`: the last segment of the path that rules see.
-/

set_option autoImplicit false

namespace HostOverlay

namespace Path

theorem joinSegments_append_joinSegments (xs : List String) (x y : String) (ys : List String) :
    joinSegments (xs ++ [x]) ++ joinSegments (y :: ys) = joinSegments (xs ++ (x ++ y) :: ys) := by
  refine String.toList_injective ?_
  simp only [joinSegments, String.toList_append, String.toList_ofList]
  induction xs with
  | nil =>
    cases ys with
    | nil => simp
    | cons z zs => simp [List.intercalate_cons_of_ne_nil]
  | cons w ws ih =>
    have hcons : ∀ zs : List String, zs ≠ [] →
        List.intercalate ['/'] ((w :: zs).map String.toList) =
          w.toList ++ ['/'] ++ List.intercalate ['/'] (zs.map String.toList) := fun zs hzs ↦
      List.intercalate_cons_of_ne_nil (by simpa using hzs)
    rw [List.cons_append, List.cons_append, hcons _ (by simp), hcons _ (by simp),
      List.append_assoc, ih]

/-- Where two texts meet, the last segment of the first and the first one of the second make one. -/
theorem segments_append {a b x y : String} {xs ys : List String} (ha : segments a = xs ++ [x])
    (hb : segments b = y :: ys) : segments (a ++ b) = xs ++ (x ++ y) :: ys := by
  have hsplit : a ++ b = joinSegments (xs ++ (x ++ y) :: ys) := by
    rw [← joinSegments_append_joinSegments, ← ha, ← hb, joinSegments_segments,
      joinSegments_segments]
  have hfree : ∀ s ∈ xs ++ (x ++ y) :: ys, '/' ∉ s.toList := by
    have hfree₁ : ∀ s ∈ xs ++ [x], '/' ∉ s.toList := fun s hs ↦
      no_slash_of_mem_segments (p := a) (ha ▸ hs)
    have hfree₂ : ∀ s ∈ y :: ys, '/' ∉ s.toList := fun s hs ↦
      no_slash_of_mem_segments (p := b) (hb ▸ hs)
    intro s hs
    rcases List.mem_append.1 hs with hs | hs
    · exact hfree₁ s (List.mem_append_left _ hs)
    rcases List.mem_cons.1 hs with rfl | hs
    · rw [String.toList_append, List.mem_append]
      exact not_or.2 ⟨hfree₁ x (by simp), hfree₂ y List.mem_cons_self⟩
    · exact hfree₂ s (List.mem_cons_of_mem _ hs)
  rw [hsplit, segments_joinSegments (by simp) hfree]

/-- The segments of a path with names joined to it. -/
theorem segments_foldl_join {ns : List String} (hns : ∀ n ∈ ns, IsName n) (hne : ns ≠ []) :
    ∀ {p : String}, p ≠ "" → ∃ ss slashes : List String, (∀ s ∈ slashes, s = "") ∧
      segments p = ss ++ slashes ∧ segments (ns.foldl join p) = ss ++ ns := by
  induction ns with
  | nil => exact absurd rfl hne
  | cons n ns ih =>
    intro p hp
    rw [List.forall_mem_cons] at hns
    obtain ⟨ss, slashes, hslashes, hsegments, hjoin⟩ := Disk.segments_join_name hp hns.1
    refine ⟨ss, slashes, hslashes, hsegments, ?_⟩
    by_cases hlast : ns = []
    · subst hlast
      exact hjoin
    · have hpn : join p n ≠ "" := by
        intro hempty
        rw [hempty, segments_empty] at hjoin
        have hn : ([""] : List String).getLast? = some n := by rw [hjoin, List.getLast?_concat]
        exact hns.1.ne_empty (by simpa using hn.symm)
      obtain ⟨ss', slashes', hslashes', hsegments', hrest⟩ := ih hns.2 hlast hpn
      -- a name at the end is no slash, so that nothing is taken away before the next one
      have hss' : ss' = ss ++ [n] := by
        rcases List.eq_nil_or_concat slashes' with rfl | ⟨init, s, rfl⟩
        · rw [← hjoin, hsegments', List.append_nil]
        · rw [hjoin, List.concat_eq_append, ← List.append_assoc] at hsegments'
          obtain ⟨-, hn⟩ := List.append_inj' hsegments' rfl
          exact absurd ((List.cons.inj hn).1.trans (hslashes' s (by simp))) hns.1.ne_empty
      rw [List.foldl_cons, hrest, hss', List.append_assoc, List.singleton_append]

end Path

namespace Ignore

open HostOverlay.Path

theorem after?_eq_some_iff {word s rest : String} :
    after? word s = some rest ↔ s = word ++ rest := by
  rw [after?]
  split
  · rename_i hfront
    obtain ⟨q, rfl⟩ := isPrefixOf_toList_iff.1 hfront
    have hdrop : String.ofList ((word ++ q).toList.drop word.toList.length) = q := by simp
    rw [hdrop, Option.some_inj]
    constructor
    · rintro rfl
      rfl
    · intro h
      have hlist := congrArg String.toList h
      rw [String.toList_append, String.toList_append, List.append_cancel_left_eq] at hlist
      exact String.toList_injective hlist
  · rename_i hfront
    refine iff_of_false (fun h ↦ nomatch h) fun h ↦ hfront (isPrefixOf_toList_iff.2 ⟨rest, h⟩)

/-- At most one segment is dropped in front, and it is a `.`. -/
theorem dropHere_cases (path : String) :
    (∃ rest, path = "./" ++ rest ∧ dropHere path = rest) ∨
      (∀ rest, path ≠ "./" ++ rest) ∧ dropHere path = path := by
  rw [dropHere]
  cases hafter : after? "./" path with
  | some rest => exact .inl ⟨rest, after?_eq_some_iff.1 hafter, rfl⟩
  | none =>
    refine .inr ⟨fun rest hrest ↦ ?_, rfl⟩
    rw [after?_eq_some_iff.2 hrest] at hafter
    cases hafter

theorem exists_segments_dropHere (path : String) :
    ∃ i ≤ 1, segments path = List.replicate i "." ++ segments (dropHere path) := by
  rcases dropHere_cases path with ⟨rest, rfl, hrest⟩ | ⟨-, hsame⟩
  · exact ⟨1, Nat.le_refl 1, by rw [hrest, segments_here_append]; rfl⟩
  · exact ⟨0, Nat.zero_le 1, by rw [hsame]; rfl⟩

theorem getLast?_segments_dropHere (path : String) :
    (segments (dropHere path)).getLast? = (segments path).getLast? := by
  obtain ⟨i, -, hsegments⟩ := exists_segments_dropHere path
  rw [hsegments, List.getLast?_append, List.getLast?_eq_some_getLast (segments_ne_nil _),
    Option.some_or]

theorem getLast?_segments_dropSlash (path : String) :
    (segments (dropSlash path)).getLast? = (segments path).getLast? := by
  rw [dropSlash]
  cases hafter : after? "/" path with
  | some rest =>
    obtain rfl := after?_eq_some_iff.1 hafter
    rw [Option.getD_some, segments_root_append,
      List.getLast?_cons_of_ne_nil (segments_ne_nil rest)]
  | none => rfl

/-- A path with no segment but `.` goes nowhere. -/
theorem isHere_of_segments {path : String} (h : ∀ s ∈ segments path, s = ".") :
    isHere path = true := by
  obtain ⟨s, rest, hs⟩ := List.exists_cons_of_ne_nil (segments_ne_nil path)
  rw [hs, List.forall_mem_cons] at h
  have hrel : isAbsolute path = false := by
    rw [Bool.eq_false_iff]
    intro habs
    obtain ⟨s', rest', hs'⟩ := isAbsolute_iff_segments.1 habs
    obtain ⟨rfl, -⟩ := List.cons.inj (hs.symm.trans hs')
    exact absurd h.1 (by decide)
  have hsteps : steps rest = [] := by
    rw [steps, List.map_eq_nil_iff, List.filter_eq_nil_iff]
    intro r hr
    rw [h.2 r hr]
    decide
  rw [isHere, components, hs]
  simp [hrel, h.1, hsteps]

/-- A list that is itself without its last element, behind one more, has that element only. -/
theorem forall_eq_of_eq_cons_dropLast {α : Type} {a : α} {l : List α} (h : l = a :: l.dropLast) :
    ∀ x ∈ l, x = a := by
  induction l with
  | nil => cases h
  | cons b l ih =>
    obtain ⟨rfl, hl⟩ := List.cons.inj h
    refine List.forall_mem_cons.2 ⟨rfl, ?_⟩
    rcases l with _ | ⟨c, l⟩
    · simp
    · exact ih (by rwa [List.dropLast_cons_cons] at hl)

section

variable {dir : String} (hdir : dir ≠ "") {ks : List String} {n : String}
  (hks : ∀ k ∈ ks, IsName k) (hn : IsName n)

include hdir hks hn

/-- What is dropped in front of a path never reaches into the name at its end, unless the path of
the directory goes nowhere. -/
theorem isHere_of_cut {p path : String} (hp : p = (ks ++ [n]).foldl join dir)
    (hpath : path = dropHere (dropHere p)) {ss : List String} {s rest : String}
    (hdrop : segments (dropHere dir) = ss ++ [s]) (hs : s ≠ "")
    (hcut : segments path = ss ++ [s ++ rest]) : isHere (dropHere dir) = true := by
  obtain ⟨tt, slashes, hslashes, hsegments, hjoined⟩ := segments_foldl_join
    (List.forall_mem_append.2 ⟨hks, List.forall_mem_singleton.2 hn⟩) (by simp) hdir
  obtain ⟨i, hi, hfirst⟩ := exists_segments_dropHere p
  obtain ⟨j, hj, hsecond⟩ := exists_segments_dropHere (dropHere p)
  have hdots : tt ++ (ks ++ [n]) = List.replicate (i + j) "." ++ (ss ++ [s ++ rest]) := by
    rw [← hjoined, ← hp, hfirst, hsecond, ← hpath, hcut,
      ← List.replicate_append_replicate, List.append_assoc]
  have hlength := congrArg List.length hdots
  simp only [List.length_append, List.length_replicate, List.length_singleton] at hlength
  refine isHere_of_segments ?_
  rw [hdrop]
  -- the path of the directory ends in a name or a `.`, so that nothing is taken away at its end
  have htt : ∀ us : List String, tt ++ slashes = us ++ [s] → tt = us ++ [s] := by
    intro us hus
    rcases List.eq_nil_or_concat slashes with rfl | ⟨init, t, rfl⟩
    · rwa [List.append_nil] at hus
    · rw [List.concat_eq_append, ← List.append_assoc] at hus
      obtain ⟨-, ht⟩ := List.append_inj' hus rfl
      exact absurd ((List.cons.inj ht).1.symm.trans (hslashes t (by simp))) hs
  rcases dropHere_cases dir with ⟨rest', rfl, hrest'⟩ | ⟨hno, hsame⟩
  · -- two dots are dropped of the entry's path and one of the directory's
    rw [hrest'] at hdrop
    have htt := htt ("." :: ss) (by rw [← hsegments, segments_here_append, hdrop]; rfl)
    rw [htt] at hdots hlength
    simp only [List.length_append, List.length_cons, List.length_nil] at hlength
    obtain rfl : ks = [] := List.eq_nil_of_length_eq_zero (by omega)
    have htwo : i + j = 2 := by simp only [List.length_nil] at hlength; omega
    rw [htwo] at hdots
    refine forall_eq_of_eq_cons_dropLast ?_
    rw [List.dropLast_concat]
    have hcommon : ss ++ [s] ++ [n] = "." :: ss ++ [s ++ rest] := (List.cons.inj hdots).2
    exact (List.append_inj' hcommon rfl).1
  · -- the path of the directory is `.`, since it does not begin with `./`
    rw [hsame] at hdrop
    have htt := htt ss (by rw [← hsegments, hdrop])
    rw [htt] at hdots hlength
    simp only [List.length_append, List.length_cons, List.length_nil] at hlength
    obtain ⟨m, hm⟩ : ∃ m, i + j = m + 1 := ⟨i + j - 1, by omega⟩
    rw [hm, List.replicate_succ] at hdots
    rcases ss with _ | ⟨t, ss⟩
    · exact List.forall_mem_singleton.2 (List.cons.inj hdots).1
    · refine absurd ?_ (hno (joinSegments (ss ++ [s])))
      obtain rfl : t = "." := (List.cons.inj hdots).1
      have hfirst : ["."] ≠ [] := by simp
      rw [← joinSegments_segments dir, hdrop]
      exact joinSegments_append hfirst (by simp)

/-- **An entry keeps its name** in the path that rules see. -/
theorem getLast?_segments_below :
    (segments (below dir (dropHere ((ks ++ [n]).foldl join dir)))).getLast? = some n := by
  have hlast : (segments (dropHere (dropHere ((ks ++ [n]).foldl join dir)))).getLast? = some n := by
    obtain ⟨ss, -, -, -, hsegments⟩ := segments_foldl_join
      (List.forall_mem_append.2 ⟨hks, List.forall_mem_singleton.2 hn⟩) (by simp) hdir
    rw [getLast?_segments_dropHere, getLast?_segments_dropHere, hsegments, ← List.append_assoc,
      List.getLast?_concat]
  rw [below]
  split
  · exact hlast
  rename_i hhere
  split
  · rename_i rest hafter
    rw [getLast?_segments_dropSlash]
    obtain ⟨ss, s, hdrop⟩ := (List.eq_nil_or_concat _).resolve_left (segments_ne_nil (dropHere dir))
    obtain ⟨t, ts, hrest⟩ := List.exists_cons_of_ne_nil (segments_ne_nil rest)
    rw [List.concat_eq_append] at hdrop
    have hpath := segments_append hdrop hrest
    rw [← after?_eq_some_iff.1 hafter] at hpath
    rw [hpath] at hlast
    rcases ts with _ | ⟨t', ts⟩
    · by_cases hs : s = ""
      · subst hs
        rw [hrest]
        simpa using hlast
      · have := isHere_of_cut hdir hks hn rfl rfl hdrop hs hpath
        simp [this] at hhere
    · rw [hrest]
      simpa using hlast
  · exact hlast

end

end Ignore

end HostOverlay
