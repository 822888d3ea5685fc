import HostOverlay.Proofs.Disk.Lookup

/-!
# What there is to see at a path

The observers of a disk follow a path through all links, also through one at its end.  So none of
them ever sees a link: a path leads to a file, to a directory, or to a failure, whatever the tree is
like.

* `lookup_ne_link`: a path does not end at a link.
* `lookup_cases`: the three ways in which following a path can end.
* `present_eq_ok_true_iff`, `present_eq_ok_false_iff`: what the answers of storage mean.
-/

set_option autoImplicit false

namespace HostOverlay.Disk

/-! ## No link at the end -/

/-- The directory above a directory is no link. -/
theorem get?_dropLast_ne_link {root : Node} {place : Place} {entries : List (String × Node)}
    (h : root.get? place = some (.dir entries)) (target : String) :
    root.get? place.dropLast ≠ some (.link target) := by
  rcases List.eq_nil_or_concat place with rfl | ⟨above, name, rfl⟩
  · rw [List.dropLast_nil, h]
    simp
  · rw [List.concat_eq_append] at h ⊢
    obtain ⟨es, hes⟩ := Node.exists_dir_of_isPrefix h (List.prefix_refl _)
    rw [List.dropLast_concat, hes]
    simp

/-- When following goes on from a link, it has segments left to follow, so what has to be known
about the place where it starts is asked for only when there are none. -/
theorem follow_ne_link {root : Node} {onLink : Place → List String → Except IoError Landing}
    (hlink : ∀ place ss, ss ≠ [] → ∀ q target, onLink place ss ≠ .ok (.entry q (.link target)))
    {ss : List String} : ∀ {place : Place},
      (ss = [] → ∀ target, root.get? place ≠ some (.link target)) →
      ∀ q target, follow root .target onLink place ss ≠ .ok (.entry q (.link target)) := by
  induction ss with
  | nil =>
    intro place hplace q target h
    rw [follow] at h
    split at h
    · rename_i node hnode
      obtain ⟨rfl, rfl⟩ := Landing.entry.inj (Except.ok.inj h)
      exact hplace rfl target hnode
    · cases h
  | cons s rest ih =>
    intro place hplace q target h
    rw [follow] at h
    split at h
    · cases h
    · rename_i entries hdir
      split at h
      · exact ih (fun _ target ↦ by simp [hdir]) q target h
      split at h
      · exact ih (fun _ ↦ get?_dropLast_ne_link hdir) q target h
      split at h
      · cases h
      split at h
      · cases h
      split at h
      · split at h
        · cases h
        · cases h
      · rename_i target' hfound
        split at h
        · rename_i hpurpose
          simp at hpurpose
        · exact hlink _ _ (by simp [Path.segments_ne_nil]) q target h
      · rename_i node hnolink hfound
        refine ih (fun _ target htarget ↦ ?_) q target h
        rw [Node.get?_concat hdir s, hfound] at htarget
        exact hnolink target (Option.some.inj htarget)
    · cases h

theorem followLinks_ne_link {root : Node} (n : Nat) : ∀ (place : Place) (ss : List String),
    ss ≠ [] → ∀ q target,
      followLinks root .target n place ss ≠ .ok (.entry q (.link target)) := by
  induction n with
  | zero => exact fun place ss hss ↦ follow_ne_link (by simp) (absurd · hss)
  | succ n ih => exact fun place ss hss ↦ follow_ne_link ih (absurd · hss)

/-- **A path does not end at a link.** -/
theorem lookup_ne_link (d : Disk) (path : String) (place : Place) (target : String) :
    d.lookup path ≠ .ok (place, .link target) := by
  intro h
  exact followLinks_ne_link _ _ _ (Path.segments_ne_nil path) place target (lookup_eq_ok_iff.1 h).2

/-- A path leads to a failure, to a file or to a directory. -/
theorem lookup_cases (d : Disk) (path : String) :
    (∃ e, d.lookup path = .error e) ∨
      (∃ place content modified, d.lookup path = .ok (place, .file content modified)) ∨
      ∃ place entries, d.lookup path = .ok (place, .dir entries) := by
  rcases h : d.lookup path with e | ⟨place, node⟩
  · exact .inl ⟨e, rfl⟩
  · cases node with
    | file content modified => exact .inr (.inl ⟨place, content, modified, rfl⟩)
    | dir entries => exact .inr (.inr ⟨place, entries, rfl⟩)
    | link target => exact absurd h (lookup_ne_link d path place target)

/-! ## What storage says -/

variable {d : Disk} {path : String}

theorem present_eq_ok_true_iff :
    d.present path = .ok true ↔ ∃ found, d.lookup path = .ok found := by
  rw [present]
  split <;> simp_all

theorem present_eq_ok_false_iff :
    d.present path = .ok false ↔ d.lookup path = .error .notFound := by
  rw [present]
  split <;> simp_all

end HostOverlay.Disk
