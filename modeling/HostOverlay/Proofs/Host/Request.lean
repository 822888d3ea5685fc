import HostOverlay.Cli.Console

/-!
# Running a request in a world

A `Request` is run in a world and gives an answer together with the world it leaves, also when the
answer is a failure.  So do a program on a console and an edit of a disk.  These lemmas run such a
computation piece by piece, so that no later proof has to open the monads it is made of.

The world of the library is any type with a disk and a place for diagnostics.  `LawfulWorld` is the
one thing that has to be known about it: writing a diagnostic does not change the disk.
-/

set_option autoImplicit false

namespace HostOverlay

variable {ε σ α β : Type}

/-! ## Computations that may fail -/

theorem run_bind (x : ExceptT ε (StateM σ) α) (f : α → ExceptT ε (StateM σ) β) (w : σ) :
    (x >>= f).run w = (ExceptT.bindCont f (x.run w).1 : StateM σ _) (x.run w).2 := rfl

theorem run_get_bind (f : σ → ExceptT ε (StateM σ) β) (w : σ) :
    (get >>= f : ExceptT ε (StateM σ) β).run w = (f w).run w := rfl

section

variable {x : ExceptT ε (StateM σ) α} {w w' : σ} (f : α → ExceptT ε (StateM σ) β)

theorem run_bind_of_ok {a : α} (h : x.run w = (.ok a, w')) : (x >>= f).run w = (f a).run w' := by
  rw [run_bind, h]
  rfl

theorem run_bind_of_error {e : ε} (h : x.run w = (.error e, w')) :
    (x >>= f).run w = (.error e, w') := by
  rw [run_bind, h]
  rfl

end

/-- When a computation succeeds, so does each of its two parts. -/
theorem of_run_bind_eq_ok {x : ExceptT ε (StateM σ) α} {f : α → ExceptT ε (StateM σ) β}
    {w w'' : σ} {b : β} (h : (x >>= f).run w = (.ok b, w'')) :
    ∃ a w', x.run w = (.ok a, w') ∧ (f a).run w' = (.ok b, w'') := by
  rcases hx : x.run w with ⟨a, w'⟩
  cases a with
  | error e =>
    rw [run_bind_of_error f hx] at h
    cases h
  | ok a => exact ⟨a, w', rfl, (run_bind_of_ok f hx).symm.trans h⟩

/-! ## Requests -/

/-- A computation that goes on after a look at the disk. -/
theorem getDisk_bind [OnDisk σ] (f : Disk → StateM σ α) (w : σ) :
    (getDisk >>= f) w = f (OnDisk.disk w) w := rfl

namespace Request

theorem run_pure (a : α) (w : σ) : (pure a : Request σ α).run w = (.ok a, w) := rfl

/-- A computation that cannot fail, as part of a request. -/
theorem run_lift (x : StateM σ α) (w : σ) :
    (ExceptT.lift x : Request σ α).run w = (.ok (x w).1, (x w).2) := rfl

theorem run_liftM {x : StateM σ α} {w w' : σ} {a : α} (h : x w = (a, w')) :
    (liftM x : Request σ α).run w = (.ok a, w') := by
  have h' : (liftM x : Request σ α).run w = (.ok (x w).1, (x w).2) := rfl
  rw [h', h]

theorem run_trace [Traced σ] (severity : Severity) (origin text : String) (w : σ) :
    (Request.trace severity origin text).run w = (.ok (), Traced.emit ⟨severity, origin, text⟩ w) :=
  rfl

theorem run_map {f : α → β} {x : Request σ α} {w w' : σ} {a : Except Error α}
    (h : x.run w = (a, w')) : (f <$> x).run w = (f <$> a, w') := by
  cases a with
  | ok a => exact run_bind_of_ok _ h
  | error e => exact run_bind_of_error _ h

/-- A request that goes on after a computation that cannot fail. -/
theorem run_lift_bind (x : StateM σ α) (f : α → Request σ β) (w : σ) :
    ((ExceptT.lift x : Request σ α) >>= f).run w = (f (x w).1).run (x w).2 :=
  run_bind_of_ok f (run_lift x w)

/-- A request that goes on after a look at the disk. -/
theorem run_getDisk_bind [OnDisk σ] (f : Disk → Request σ β) (w : σ) :
    ((ExceptT.lift getDisk : Request σ Disk) >>= f).run w = (f (OnDisk.disk w)).run w :=
  run_lift_bind getDisk f w

end Request

/-- A world in which diagnostics are kept apart from the disk. -/
class LawfulWorld (σ : Type) [Traced σ] [OnDisk σ] : Prop where
  disk_emit : ∀ (d : Diagnostic) (w : σ), OnDisk.disk (Traced.emit d w) = OnDisk.disk w

instance : LawfulWorld Cli.Console where
  disk_emit d c := by
    simp only [Traced.emit]
    split
    · rfl
    · rfl

end HostOverlay
