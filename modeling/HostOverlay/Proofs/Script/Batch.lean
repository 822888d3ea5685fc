import HostOverlay.Script.Resolution

/-!
# Batches of imports

A host answers a batch of specifiers with a list, and nothing in the list says which answer belongs
to which specifier: only the position does.  So what `redirect` does to a batch is described by
position, `IsRedirected`, and a batch that has not as many answers as specifiers is refused as a
whole, with both numbers.

* `redirect_eq_error_iff`, `redirect_eq_ok_iff`: the two outcomes.
* `redirect_eq_ok_iff_isRedirected`: the description by position leaves no choice.
* `redirect_redirect`, `redirect_congr`, `redirect_append`: redirecting twice, redirecting batches
  that differ in foreign slots only, and redirecting two batches one behind the other.
* `redirect_slotwise` puts it together.
-/

set_option autoImplicit false

namespace HostOverlay

variable {specifiers more : List Specifier} {containing : String}
  {found found' resolutions : List Resolution}

/-! ## The two outcomes -/

theorem redirect_eq_error_iff {cause : LengthMismatch} :
    redirect specifiers containing found = .error cause ↔
      found.length ≠ specifiers.length ∧ cause = ⟨specifiers.length, found.length⟩ := by
  rw [redirect]
  by_cases h : found.length = specifiers.length
  · simp [h]
  · simp [h, eq_comm]

theorem redirect_eq_ok_iff :
    redirect specifiers containing found = .ok resolutions ↔
      found.length = specifiers.length ∧
        List.zipWith (redirectOne containing) specifiers found = resolutions := by
  rw [redirect]
  by_cases h : found.length = specifiers.length
  · simp [h]
  · simp [h]

/-- One slot of a batch, by what the slot of the host's batch is. -/
theorem getElem?_redirected (containing : String) {i : Nat} {s : Specifier}
    (hi : specifiers[i]? = some s) :
    (List.zipWith (redirectOne containing) specifiers found)[i]? =
      found[i]?.map (redirectOne containing s) := by
  rw [List.getElem?_zipWith, hi]
  cases found[i]? <;> rfl

theorem map_redirectOne_native {s : Specifier} (hs : isForeign s.text = false)
    (slot : Option Resolution) : slot.map (redirectOne containing s) = slot := by
  have hid : redirectOne containing s = id := by
    funext found
    rw [redirectOne, hs, if_neg Bool.false_ne_true, id]
  rw [hid, Option.map_id_fun, id]

/-- In a batch with an answer for each specifier, there is something to overwrite. -/
theorem map_redirectOne_foreign (hlen : found.length = specifiers.length) {i : Nat} {s : Specifier}
    (hi : specifiers[i]? = some s) (hs : isForeign s.text = true) :
    found[i]?.map (redirectOne containing s) =
      some (.resolved (foreignModule s containing)) := by
  obtain ⟨hlt, -⟩ := List.getElem?_eq_some_iff.1 hi
  rw [List.getElem?_eq_getElem (hlen ▸ hlt), Option.map_some, redirectOne, if_pos hs]

/-- A batch is described by its slots. -/
theorem zipWith_redirectOne_eq (hlen : found.length = specifiers.length)
    (hlen' : resolutions.length = specifiers.length)
    (h : ∀ (i : Nat) (s : Specifier), specifiers[i]? = some s →
      found[i]?.map (redirectOne containing s) = resolutions[i]?) :
    List.zipWith (redirectOne containing) specifiers found = resolutions := by
  refine List.ext_getElem? fun i ↦ ?_
  cases hi : specifiers[i]? with
  | some s => rw [getElem?_redirected containing hi, h i s hi]
  | none =>
    have hle : specifiers.length ≤ i := List.getElem?_eq_none_iff.1 hi
    rw [List.getElem?_eq_none (by rw [List.length_zipWith]; omega),
      List.getElem?_eq_none (by omega)]

/-! ## Slot by slot -/

/-- The batch `resolutions` is `found` with every foreign slot overwritten: by the declaration
module that the specifier stands for, found without a failed attempt. -/
structure IsRedirected (specifiers : List Specifier) (containing : String)
    (found resolutions : List Resolution) : Prop where
  length_eq : resolutions.length = specifiers.length
  native : ∀ (i : Nat) (s : Specifier), specifiers[i]? = some s → isForeign s.text = false →
    resolutions[i]? = found[i]?
  /-- What the host has found does not matter. -/
  foreign : ∀ (i : Nat) (s : Specifier), specifiers[i]? = some s → isForeign s.text = true →
    ∃ m : ResolvedModule, resolutions[i]? = some { module := some m, failedLookups := [] } ∧
      m = foreignModule s containing ∧ m.extension = .dts ∧ m.isExternalLibraryImport = false

/-- **The slots leave no choice**: a batch is redirected to the one batch that has them. -/
theorem redirect_eq_ok_iff_isRedirected :
    redirect specifiers containing found = .ok resolutions ↔
      found.length = specifiers.length ∧
        IsRedirected specifiers containing found resolutions := by
  rw [redirect_eq_ok_iff, and_congr_right_iff]
  intro hlen
  constructor
  · rintro rfl
    refine ⟨by rw [List.length_zipWith, hlen, Nat.min_self], fun i s hi hs ↦ ?_, fun i s hi hs ↦ ?_⟩
    · rw [getElem?_redirected containing hi, map_redirectOne_native hs]
    · refine ⟨foreignModule s containing, ?_, rfl, rfl, rfl⟩
      rw [getElem?_redirected containing hi, map_redirectOne_foreign hlen hi hs]
      rfl
  · intro h
    refine zipWith_redirectOne_eq hlen h.length_eq fun i s hi ↦ ?_
    cases hs : isForeign s.text with
    | false =>
      rw [h.native i s hi hs, map_redirectOne_native hs]
    | true =>
      obtain ⟨m, hm, rfl, -, -⟩ := h.foreign i s hi hs
      rw [hm, map_redirectOne_foreign hlen hi hs]
      rfl

/-! ## Consequences -/

theorem redirectOne_redirectOne (containing : String) (s : Specifier) (found : Resolution) :
    redirectOne containing s (redirectOne containing s found) = redirectOne containing s found := by
  simp only [redirectOne]
  split
  · rfl
  · rfl

/-- Overwriting the foreign slots of a batch a second time changes nothing. -/
theorem redirect_redirect (h : redirect specifiers containing found = .ok resolutions) :
    redirect specifiers containing resolutions = .ok resolutions := by
  obtain ⟨hlen, rfl⟩ := redirect_eq_ok_iff.1 h
  have hlen' : (List.zipWith (redirectOne containing) specifiers found).length =
      specifiers.length := by
    rw [List.length_zipWith, hlen, Nat.min_self]
  refine redirect_eq_ok_iff.2 ⟨hlen', zipWith_redirectOne_eq hlen' hlen' fun i s hi ↦ ?_⟩
  rw [getElem?_redirected containing hi, Option.map_map]
  exact congrArg (found[i]?.map ·) (funext (redirectOne_redirectOne containing s))

/-- What the host says in the foreign slots has no part in the result. -/
theorem redirect_congr (hlen : found.length = specifiers.length)
    (hlen' : found'.length = specifiers.length)
    (h : ∀ (i : Nat) (s : Specifier), specifiers[i]? = some s → isForeign s.text = false →
      found[i]? = found'[i]?) :
    redirect specifiers containing found = redirect specifiers containing found' := by
  obtain ⟨resolutions, hfound⟩ : ∃ resolutions,
      redirect specifiers containing found = .ok resolutions :=
    ⟨_, redirect_eq_ok_iff.2 ⟨hlen, rfl⟩⟩
  have hslots := (redirect_eq_ok_iff_isRedirected.1 hfound).2
  rw [hfound]
  refine (redirect_eq_ok_iff_isRedirected.2 ⟨hlen', hslots.length_eq, ?_, hslots.foreign⟩).symm
  intro i s hi hs
  rw [hslots.native i s hi hs, h i s hi hs]

theorem redirect_append (hlen : found.length = specifiers.length)
    (hlen' : found'.length = more.length) :
    redirect (specifiers ++ more) containing (found ++ found') = do
      return (← redirect specifiers containing found) ++ (← redirect more containing found') := by
  have hboth : (found ++ found').length = (specifiers ++ more).length := by
    rw [List.length_append, List.length_append, hlen, hlen']
  rw [redirect, redirect, redirect, if_pos hboth, if_pos hlen, if_pos hlen',
    List.zipWith_append hlen.symm]
  rfl

/-- **A batch is redirected slot by slot, or refused.**  It is refused when the host has not given
one answer for each specifier.  Otherwise each slot is the host's, or the module that a foreign
specifier stands for, and this determines the result.  So batches that agree on what is not foreign
come to the same, nothing changes the second time, and a long batch can be redirected in parts. -/
theorem redirect_slotwise (specifiers : List Specifier) (containing : String) :
    (∀ found cause, redirect specifiers containing found = .error cause ↔
      found.length ≠ specifiers.length ∧ cause = ⟨specifiers.length, found.length⟩) ∧
    (∀ found, found.length = specifiers.length →
      ∃ resolutions, redirect specifiers containing found = .ok resolutions ∧
        ∀ slots, IsRedirected specifiers containing found slots ↔ slots = resolutions) ∧
    (∀ found found' : List Resolution, found.length = specifiers.length →
      found'.length = specifiers.length →
      (∀ (i : Nat) (s : Specifier), specifiers[i]? = some s → isForeign s.text = false →
        found[i]? = found'[i]?) →
      redirect specifiers containing found = redirect specifiers containing found') ∧
    (∀ found resolutions, redirect specifiers containing found = .ok resolutions →
      redirect specifiers containing resolutions = .ok resolutions) ∧
    ∀ (more : List Specifier) (found found' : List Resolution),
      found.length = specifiers.length → found'.length = more.length →
      redirect (specifiers ++ more) containing (found ++ found') = do
        return (← redirect specifiers containing found) ++ (← redirect more containing found') := by
  refine ⟨fun found cause ↦ redirect_eq_error_iff, fun found hlen ↦ ?_,
    fun found found' ↦ redirect_congr, fun found resolutions ↦ redirect_redirect,
    fun more found found' ↦ redirect_append⟩
  have hfound : redirect specifiers containing found =
      .ok (List.zipWith (redirectOne containing) specifiers found) :=
    redirect_eq_ok_iff.2 ⟨hlen, rfl⟩
  refine ⟨_, hfound, fun slots ↦ ⟨fun h ↦ ?_, ?_⟩⟩
  · exact ((redirect_eq_ok_iff.1 (redirect_eq_ok_iff_isRedirected.2 ⟨hlen, h⟩)).2).symm
  · rintro rfl
    exact (redirect_eq_ok_iff_isRedirected.1 hfound).2

/-- A package, a file of the project, and a foreign file that is not next to the importing one. -/
def mixedBatch : List Specifier := [⟨"react"⟩, ⟨"./a"⟩, ⟨"../b.tzen"⟩]

/-- Two hosts that only differ in what they say of the foreign file, a third that says nothing of
it, and the batch twice over. -/
theorem redirect_slotwise_of_mixedBatch :
    let searching : List Resolution :=
      [.unresolved ["/host/react"], .resolved ⟨"src/a.ts", .ts, false⟩, .unresolved ["/host/b"]]
    let guessing : List Resolution :=
      [.unresolved ["/host/react"], .resolved ⟨"src/a.ts", .ts, false⟩,
        .resolved ⟨"node_modules/b.js", .js, true⟩]
    let slots : List Resolution :=
      [.unresolved ["/host/react"], .resolved ⟨"src/a.ts", .ts, false⟩,
        .resolved ⟨"b.tzen", .dts, false⟩]
    redirect mixedBatch "src/app.ts" searching = .ok slots ∧
    IsRedirected mixedBatch "src/app.ts" searching slots ∧
    redirect mixedBatch "src/app.ts" guessing = .ok slots ∧
    redirect mixedBatch "src/app.ts" slots = .ok slots ∧
    redirect mixedBatch "src/app.ts" (searching.take 2) = .error ⟨3, 2⟩ ∧
    redirect (mixedBatch ++ mixedBatch) "src/app.ts" (searching ++ guessing) =
      .ok (slots ++ slots) := by
  intro searching guessing slots
  obtain ⟨hrefused, hslots, hagree, htwice, happend⟩ := redirect_slotwise mixedBatch "src/app.ts"
  obtain ⟨resolutions, hsearching, hunique⟩ := hslots searching rfl
  obtain rfl : slots = resolutions := Except.ok.inj hsearching
  have hguessing : redirect mixedBatch "src/app.ts" guessing = .ok slots := by
    rw [← hsearching]
    refine hagree guessing searching rfl rfl fun i s hi hs ↦ ?_
    match i with
    | 0 | 1 => rfl
    | 2 =>
      obtain rfl : ⟨"../b.tzen"⟩ = s := Option.some.inj hi
      exact absurd hs (by decide)
    | _ + 3 => rfl
  refine ⟨hsearching, (hunique slots).2 rfl, hguessing, htwice searching slots hsearching,
    (hrefused _ _).2 ⟨by decide, rfl⟩, ?_⟩
  rw [happend mixedBatch searching guessing rfl rfl, hsearching, hguessing]
  rfl

end HostOverlay
