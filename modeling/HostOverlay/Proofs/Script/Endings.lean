import HostOverlay.Script.Kind

/-!
# The ending that a path is known by

A path may have more than one of the known endings: whatever ends in `.d.ts` also ends in `.ts`.
The extension that it carries is the longest of them, since the longer one is looked for first.

* `isLongest_of_of?_eq_some`: the extension of a path is its longest known ending.
* `isSome_of?_iff`: every path with a known ending has an extension.
-/

set_option autoImplicit false

namespace HostOverlay

theorem endsIn_iff {s ending : String} : endsIn s ending = true ↔ ending.toList <:+ s.toList :=
  List.isSuffixOf_iff_suffix

theorem endsIn_append (s ending : String) : endsIn (s ++ ending) ending = true :=
  endsIn_iff.2 (by rw [String.toList_append]; exact List.suffix_append _ _)

namespace Extension

/-- The path ends in the extension, and in no longer one. -/
structure IsLongest (e : Extension) (path : String) : Prop where
  endsIn : endsIn path e.spelling = true
  length_le : ∀ e' : Extension, HostOverlay.endsIn path e'.spelling = true →
    e'.spelling.length ≤ e.spelling.length

theorem mem_bySpecificity (e : Extension) : e ∈ bySpecificity := by
  cases e <;> decide

theorem mem_all (e : Extension) : e ∈ all := by
  cases e <;> decide

/-- **Every path with a known ending carries an extension.** -/
theorem isSome_of?_iff {path : String} :
    (of? path).isSome = true ↔ ∃ e : Extension, HostOverlay.endsIn path e.spelling = true := by
  rw [of?, List.find?_isSome]
  constructor
  · rintro ⟨e, -, he⟩
    exact ⟨e, he⟩
  · rintro ⟨e, he⟩
    exact ⟨e, mem_bySpecificity e, he⟩

theorem endsIn_of_of?_eq_some {path : String} {e : Extension} (h : of? path = some e) :
    HostOverlay.endsIn path e.spelling = true := by
  simpa using List.find?_some h

/-- The only extension that another one ends in is `.ts`, in `.d.ts`. -/
theorem eq_of_isSuffix : ∀ e e' : Extension, e.spelling.toList <:+ e'.spelling.toList →
    e = e' ∨ e = .ts ∧ e' = .dts := by
  intro e e'
  cases e <;> cases e' <;> decide

/-- **The extension that a path carries is the longest one.** -/
theorem isLongest_of_of?_eq_some {path : String} {e : Extension} (h : of? path = some e) :
    e.IsLongest path := by
  have hends := endsIn_of_of?_eq_some h
  refine ⟨hends, fun e' hends' ↦ ?_⟩
  -- of two endings of one path, one ends in the other
  rcases List.suffix_or_suffix_of_suffix (endsIn_iff.1 hends') (endsIn_iff.1 hends) with hs | hs
  · exact hs.length_le
  · rcases eq_of_isSuffix e e' hs with rfl | ⟨rfl, rfl⟩
    · exact Nat.le_refl _
    · -- `.d.ts` would have been found first
      have hfound : of? path = some .dts := List.find?_cons_of_pos hends'
      rw [hfound] at h
      cases h

end Extension

end HostOverlay
