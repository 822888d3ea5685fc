import HostOverlay.Proofs.Json.Spelling

/-!
# The numbers that the reader gives

An integer that is read from a text has 64 bits, however many digits the text has: digits without
room make the number a float.  `fitsWord_of_parse?` says so of every number in a value that was
read.
-/

set_option autoImplicit false

namespace HostOverlay.Json

/-- Is the number an integer of 64 bits, or a float? -/
def Number.FitsWord : Number → Prop
  | .integer i => -0x8000000000000000 ≤ i ∧ i < Number.wordLimit
  | .decimal _ => True

namespace Number

theorem gather_lt {n : Nat} (h : n < wordLimit) (ds : List Nat) : (gather n ds).1 < wordLimit := by
  induction ds generalizing n with
  | nil => exact h
  | cons d ds ih =>
    rw [gather]
    split
    · rename_i hd
      exact ih hd
    · exact h

theorem fitsWord_of_float? {negative : Bool} {significand : Nat} {exponent : Int} {n : Number}
    (h : float? negative significand exponent = some n) : n.FitsWord := by
  obtain ⟨b, -, rfl⟩ := Option.map_eq_some_iff.1 h
  trivial

/-- Whatever its parts are, a number is an integer of 64 bits or a float. -/
theorem fitsWord_of_ofParts? {negative : Bool} {whole : List Nat} {part : Option (List Nat)}
    {exponent : Option Int} {n : Number} (h : ofParts? negative whole part exponent = some n) :
    n.FitsWord := by
  have hlimit := gather_lt (n := 0) (by decide) whole
  rw [ofParts?] at h
  rcases gather 0 whole with ⟨m, leftOut⟩
  simp only at h hlimit
  split at h
  · split_ifs at h with hleft hsign hrange
    · exact fitsWord_of_float? h
    · obtain rfl := Option.some.inj h
      exact ⟨by omega, Int.ofNat_lt.2 hlimit⟩
    · obtain rfl := Option.some.inj h
      exact ⟨by omega, by omega⟩
    · exact fitsWord_of_float? h
  · exact fitsWord_of_float? h

end Number

theorem fitsWord_of_number? {cs rest : List Char} {n : Number} (h : number? cs = some (n, rest)) :
    n.FitsWord := by
  unfold number? at h
  split at h
  rename_i negative cs' _
  split at h
  · cases h
  · cases h
  · simp only [Option.bind_eq_bind, Option.bind_eq_some_iff, Option.pure_def, Option.some.injEq,
      Prod.mk.injEq] at h
    obtain ⟨_, -, _, -, _, -, m, hm, rfl, -⟩ := h
    exact Number.fitsWord_of_ofParts? hm

theorem mem_insertField {key : String} {v : Json} {fields : List (String × Json)}
    {f : String × Json} (h : f ∈ insertField key v fields) : f = (key, v) ∨ f ∈ fields := by
  induction fields with
  | nil => exact .inl (List.mem_singleton.1 h)
  | cons g rest ih =>
    rw [insertField] at h
    split_ifs at h
    · exact (List.mem_cons.1 h).imp_right (List.mem_cons_of_mem g)
    · exact List.mem_cons.1 h
    · rcases List.mem_cons.1 h with rfl | h
      · exact .inr List.mem_cons_self
      · exact (ih h).imp_right (List.mem_cons_of_mem g)

/-- What the fields of an object are put into has no other fields. -/
theorem mem_foldl_insertField {fields acc : List (String × Json)} {f : String × Json}
    (h : f ∈ fields.foldl (fun acc (k, v) ↦ insertField k v acc) acc) : f ∈ fields ∨ f ∈ acc := by
  induction fields generalizing acc with
  | nil => exact .inr h
  | cons g rest ih =>
    rcases ih h with hrest | hacc
    · exact .inl (List.mem_cons_of_mem g hrest)
    · rcases mem_insertField hacc with rfl | hacc
      · exact .inl List.mem_cons_self
      · exact .inr hacc

/-- Every number that the readers of values, elements and fields give at a depth fits. -/
structure ReadsWords (depth : Nat) : Prop where
  value : ∀ {cs rest : List Char} {v : Json}, value? depth cs = some (v, rest) →
    v.EachNumber Number.FitsWord
  items : ∀ {cs rest : List Char} {vs : List Json}, items? depth cs = some (vs, rest) →
    ∀ v ∈ vs, v.EachNumber Number.FitsWord
  fields : ∀ {cs rest : List Char} {fs : List (String × Json)}, fields? depth cs = some (fs, rest) →
    ∀ f ∈ fs, f.2.EachNumber Number.FitsWord

namespace ReadsWords

variable {depth : Nat} (h : ReadsWords depth) {cs rest : List Char}
include h

theorem value_succ {v : Json} (hread : value? (depth + 1) cs = some (v, rest)) :
    v.EachNumber Number.FitsWord := by
  rw [value?] at hread
  split at hread
  case h_2 =>
    split at hread
    · obtain ⟨rfl, -⟩ := Prod.mk.inj (Option.some.inj hread)
      trivial
    · obtain ⟨p, hitems, hp⟩ := Option.map_eq_some_iff.1 hread
      obtain ⟨rfl, -⟩ := Prod.mk.inj hp
      exact eachNumber_array_iff.2 (h.items hitems)
  case h_3 =>
    split at hread
    · obtain ⟨rfl, -⟩ := Prod.mk.inj (Option.some.inj hread)
      trivial
    · obtain ⟨p, hfields, hp⟩ := Option.map_eq_some_iff.1 hread
      obtain ⟨rfl, -⟩ := Prod.mk.inj hp
      refine eachNumber_object_iff.2 fun f hf ↦ h.fields hfields f ?_
      exact (mem_foldl_insertField hf).resolve_right List.not_mem_nil
  case h_7 =>
    obtain ⟨p, hnumber, hp⟩ := Option.map_eq_some_iff.1 hread
    obtain ⟨rfl, -⟩ := Prod.mk.inj hp
    exact fitsWord_of_number? hnumber
  -- a text or a word, which has no number
  all_goals
    obtain ⟨p, -, hp⟩ := Option.map_eq_some_iff.1 hread
    obtain ⟨rfl, -⟩ := Prod.mk.inj hp
    trivial

theorem items_succ {vs : List Json} (hread : items? (depth + 1) cs = some (vs, rest)) :
    ∀ v ∈ vs, v.EachNumber Number.FitsWord := by
  rw [items?] at hread
  split at hread
  · cases hread
  rename_i hvalue
  split at hread
  · obtain ⟨rfl, -⟩ := Prod.mk.inj (Option.some.inj hread)
    exact List.forall_mem_singleton.2 (h.value hvalue)
  · obtain ⟨p, hitems, hp⟩ := Option.map_eq_some_iff.1 hread
    obtain ⟨rfl, -⟩ := Prod.mk.inj hp
    exact List.forall_mem_cons.2 ⟨h.value hvalue, h.items hitems⟩
  · cases hread

theorem fields_succ {fs : List (String × Json)} (hread : fields? (depth + 1) cs = some (fs, rest)) :
    ∀ f ∈ fs, f.2.EachNumber Number.FitsWord := by
  rw [fields?] at hread
  split at hread <;> try cases hread
  split at hread <;> try cases hread
  split at hread <;> try cases hread
  split at hread <;> try cases hread
  rename_i hvalue
  split at hread
  · obtain ⟨rfl, -⟩ := Prod.mk.inj (Option.some.inj hread)
    exact List.forall_mem_singleton.2 (h.value hvalue)
  · obtain ⟨p, hfields, hp⟩ := Option.map_eq_some_iff.1 hread
    obtain ⟨rfl, -⟩ := Prod.mk.inj hp
    exact List.forall_mem_cons.2 ⟨h.value hvalue, h.fields hfields⟩
  · cases hread

end ReadsWords

theorem readsWords (depth : Nat) : ReadsWords depth := by
  induction depth with
  | zero =>
    refine ⟨fun h ↦ ?_, fun h ↦ ?_, fun h ↦ ?_⟩
    · rw [value?] at h
      cases h
    · rw [items?] at h
      cases h
    · rw [fields?] at h
      cases h
  | succ depth ih => exact ⟨ih.value_succ, ih.items_succ, ih.fields_succ⟩

/-- **Every integer in a value that was read has 64 bits.** -/
theorem fitsWord_of_parse? {s : String} {v : Json} (h : parse? s = some v) :
    v.EachNumber Number.FitsWord := by
  rw [parse?] at h
  split at h
  · rename_i hvalue
    split_ifs at h
    obtain rfl := Option.some.inj h
    exact (readsWords _).value hvalue
  · cases h

end HostOverlay.Json
