import HostOverlay.Proofs.Host.Request

/-!
# Computations that only read the disk

Most of what a host or a service does is to look at the disk, to write a diagnostic and to answer.
`Reads x f` says that `x` is such a computation: its answer is what `f` makes of the disk, whatever
else there is in the world, and the disk is left as it is.  In a `LawfulWorld` such computations are
closed under all that requests are put together with, so that `f` can be read off the way in which
`x` is written.
-/

set_option autoImplicit false

namespace HostOverlay

variable {σ α β : Type} [OnDisk σ]

/-- The computation answers what `f` says of the disk, and leaves the disk as it is. -/
def Reads (x : StateM σ α) (f : Disk → α) : Prop :=
  ∀ s, (x s).1 = f (OnDisk.disk s) ∧ OnDisk.disk (x s).2 = OnDisk.disk s

namespace Reads

protected theorem pure (a : α) : Reads (pure a : StateM σ α) fun _ ↦ a :=
  fun _ ↦ ⟨rfl, rfl⟩

protected theorem getDisk : Reads (getDisk : StateM σ Disk) fun d ↦ d :=
  fun _ ↦ ⟨rfl, rfl⟩

protected theorem trace [Traced σ] [LawfulWorld σ] (severity : Severity) (origin text : String) :
    Reads (trace severity origin text : StateM σ Unit) fun _ ↦ () :=
  fun s ↦ ⟨rfl, LawfulWorld.disk_emit _ s⟩

protected theorem bind {x : StateM σ α} {f : Disk → α} (hx : Reads x f) {k : α → StateM σ β}
    {g : α → Disk → β} (hk : ∀ a, Reads (k a) (g a)) : Reads (x >>= k) fun d ↦ g (f d) d := by
  intro s
  obtain ⟨hanswer, hdisk⟩ := hx s
  have hrun : (x >>= k) s = k (x s).1 (x s).2 := rfl
  obtain ⟨hanswer', hdisk'⟩ := hk (x s).1 (x s).2
  rw [hrun, hanswer', hdisk', hdisk, hanswer]
  exact ⟨rfl, rfl⟩

protected theorem forM {f : β → StateM σ Unit} (h : ∀ b, Reads (f b) fun _ ↦ ()) (bs : List β) :
    Reads (bs.forM f) fun _ ↦ () := by
  induction bs with
  | nil => exact Reads.pure ()
  | cons b bs ih => exact (h b).bind fun _ ↦ ih

/-! ## Requests -/

section

variable {x : StateM σ α} {f : Disk → α} (h : Reads x f)

include h

protected theorem lift : Reads (ExceptT.lift x : Request σ α).run fun d ↦ .ok (f d) := by
  intro s
  rw [Request.run_lift]
  exact ⟨by rw [(h s).1], (h s).2⟩

protected theorem liftM : Reads (liftM x : Request σ α).run fun d ↦ .ok (f d) := h.lift

end

protected theorem ofIo (r : Except IoError α) :
    Reads (Request.ofIo r : Request σ α).run fun _ ↦ r.mapError .io := by
  cases r with
  | ok a => exact fun _ ↦ ⟨rfl, rfl⟩
  | error e => exact fun _ ↦ ⟨rfl, rfl⟩

protected theorem request_bind {x : Request σ α} {f : Disk → Except Error α} (hx : Reads x.run f)
    {k : α → Request σ β} {g : α → Disk → Except Error β} (hk : ∀ a, Reads (k a).run (g a)) :
    Reads (x >>= k).run fun d ↦ f d >>= fun a ↦ g a d := by
  intro s
  obtain ⟨hanswer, hdisk⟩ := hx s
  rcases hrun : x.run s with ⟨a, s'⟩
  rw [hrun] at hanswer hdisk
  simp only at hanswer hdisk ⊢
  rw [← hanswer]
  cases a with
  | error e =>
    rw [run_bind_of_error k hrun]
    exact ⟨rfl, hdisk⟩
  | ok a =>
    obtain ⟨hanswer', hdisk'⟩ := hk a s'
    rw [run_bind_of_ok k hrun, hanswer', hdisk', hdisk]
    exact ⟨rfl, rfl⟩

/-- What the answer is can be said in other words. -/
theorem of_eq {x : StateM σ α} {f g : Disk → α} (h : Reads x f) (hfg : ∀ d, f d = g d) :
    Reads x g :=
  funext hfg ▸ h

/-- Two worlds with the same disk get the same answer. -/
theorem congr {x : StateM σ α} {f : Disk → α} (h : Reads x f) {s s' : σ}
    (hf : f (OnDisk.disk s) = f (OnDisk.disk s')) : (x s).1 = (x s').1 := by
  rw [(h s).1, (h s').1, hf]

end Reads

end HostOverlay
