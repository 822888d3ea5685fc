import HostOverlay.Ignore.Scope
import Mathlib.Data.List.Forall2

/-!
# What the ignore files around an entry decide

An entry is judged by a row of directories, the nearest first.  The first `.ignore` file that speaks
of it decides; if none does, the `.gitignore` files and exclude files of the repository decide, up
to the directory that holds it, and last, in a repository, the excludes of the user.

* `judge_eq_leaveOut`: where no rule keeps anything in, one rule that counts leaves an entry out.
* `judge_append_congr`: behind a repository, `.gitignore` files do not count.
* `judge_mono`: further rules in `.ignore` files, none of which keeps anything in, leave out more
  and change nothing else.
-/

set_option autoImplicit false

namespace HostOverlay.Ignore

/-! ## Verdicts -/

namespace Verdict

theorem or_assoc (u v w : Verdict) : (u.or v).or w = u.or (v.or w) := by
  cases u <;> rfl

theorem leaveOut_or (v : Verdict) : Verdict.leaveOut.or v = .leaveOut := rfl

theorem or_ne_keep {u v : Verdict} (hu : u ≠ .keep) (hv : v ≠ .keep) : u.or v ≠ .keep := by
  cases u with
  | silent => exact hv
  | leaveOut => simp [Verdict.or]
  | keep => exact absurd rfl hu

/-- What is left out further behind is left out, unless it is kept in before that. -/
theorem or_eq_leaveOut {u : Verdict} (hu : u ≠ .keep) : u.or .leaveOut = .leaveOut := by
  cases u with
  | silent => rfl
  | leaveOut => rfl
  | keep => exact absurd rfl hu

end Verdict

/-! ## Rules that keep nothing in -/

/-- None of the rules is negated. -/
def KeepsNothing (rs : List Rule) : Prop := ∀ r ∈ rs, r.isNegated = false

instance (rs : List Rule) : Decidable (KeepsNothing rs) :=
  inferInstanceAs (Decidable (∀ r ∈ rs, _))

theorem verdict_ne_keep {rs : List Rule} (h : KeepsNothing rs) (path : String) (isDir : Bool) :
    verdict rs path isDir ≠ .keep := by
  rw [verdict]
  split
  · simp
  · rename_i r hfind
    have hr := h r (List.mem_reverse.1 (List.mem_of_find?_eq_some hfind))
    simp [hr]

theorem verdict_eq_leaveOut {rs : List Rule} (h : KeepsNothing rs) {r : Rule} (hr : r ∈ rs)
    {path : String} {isDir : Bool} (happlies : r.appliesTo path isDir = true) :
    verdict rs path isDir = .leaveOut := by
  rw [verdict]
  split
  · rename_i hnone
    exact absurd happlies (List.find?_eq_none.1 hnone r (List.mem_reverse.2 hr))
  · rename_i r' hfind
    rw [h r' (List.mem_reverse.1 (List.mem_of_find?_eq_some hfind))]
    rfl

/-- No ignore file of the directory keeps anything in. -/
structure Frame.KeepsNothing (f : Frame) : Prop where
  ignore : Ignore.KeepsNothing f.ignore
  gitignore : Ignore.KeepsNothing f.gitignore
  exclude : Ignore.KeepsNothing f.exclude

instance (f : Frame) : Decidable f.KeepsNothing :=
  decidable_of_iff (Ignore.KeepsNothing f.ignore ∧ Ignore.KeepsNothing f.gitignore ∧
      Ignore.KeepsNothing f.exclude)
    ⟨fun ⟨h₁, h₂, h₃⟩ ↦ ⟨h₁, h₂, h₃⟩, fun h ↦ ⟨h.1, h.2, h.3⟩⟩

section

variable {views : List (Frame × String)} {user : Verdict} (isDir : Bool)

theorem ignoreVerdict_ne_keep (h : ∀ v ∈ views, v.1.KeepsNothing) :
    ignoreVerdict isDir views ≠ .keep := by
  induction views with
  | nil => simp [ignoreVerdict]
  | cons v rest ih =>
    rw [List.forall_mem_cons] at h
    exact Verdict.or_ne_keep (verdict_ne_keep h.1.ignore _ _) (ih h.2)

/-- The rules of a directory count for an entry when no directory nearer to it holds a
repository. -/
theorem repositoryVerdict_eq_leaveOut {select : Frame → List Rule} {nearer : List (Frame × String)}
    (hnearer : ∀ v ∈ nearer, v.1.hasRepository = false ∧ KeepsNothing (select v.1))
    {frame : Frame} {path : String} (h : verdict (select frame) path isDir = .leaveOut)
    (farther : List (Frame × String)) :
    repositoryVerdict select isDir (nearer ++ (frame, path) :: farther) = .leaveOut := by
  induction nearer with
  | nil =>
    rw [List.nil_append, repositoryVerdict, h]
    rfl
  | cons v rest ih =>
    rw [List.forall_mem_cons] at hnearer
    rw [List.cons_append, repositoryVerdict, hnearer.1.1, if_neg (by simp), ih hnearer.2]
    exact Verdict.or_eq_leaveOut (verdict_ne_keep hnearer.1.2 _ _)

/-- **One rule leaves an entry out**, where no rule keeps anything in: a rule of a `.gitignore` that
speaks of the entry, in a repository that no other one around the entry lies in. -/
theorem judge_eq_leaveOut {nearer farther : List (Frame × String)} {frame : Frame} {path : String}
    (hviews : views = nearer ++ (frame, path) :: farther) (hkeep : ∀ v ∈ views, v.1.KeepsNothing)
    (hnearer : ∀ v ∈ nearer, v.1.hasRepository = false)
    (hrepository : ∃ v ∈ views, v.1.hasRepository = true) {r : Rule} (hr : r ∈ frame.gitignore)
    (happlies : r.appliesTo path isDir = true) : judge views user isDir = .leaveOut := by
  have hany : (views.any fun v ↦ v.1.hasRepository) = true := List.any_eq_true.2 hrepository
  have hframe : frame.KeepsNothing := hkeep (frame, path) (by simp [hviews])
  have hgit : repositoryVerdict Frame.gitignore isDir views = .leaveOut := by
    rw [hviews]
    refine repositoryVerdict_eq_leaveOut isDir (fun v hv ↦ ⟨hnearer v hv, ?_⟩)
      (verdict_eq_leaveOut hframe.gitignore hr happlies) farther
    exact (hkeep v (by simp [hviews, hv])).gitignore
  simp only [judge, hany, if_true, hgit, Verdict.leaveOut_or]
  exact Verdict.or_eq_leaveOut (ignoreVerdict_ne_keep isDir hkeep)

/-! ## Behind a repository -/

theorem ignoreVerdict_append (views behind : List (Frame × String)) :
    ignoreVerdict isDir (views ++ behind) =
      (ignoreVerdict isDir views).or (ignoreVerdict isDir behind) := by
  induction views with
  | nil => rfl
  | cons v rest ih => rw [List.cons_append, ignoreVerdict, ignoreVerdict, ih, Verdict.or_assoc]

theorem repositoryVerdict_append {select : Frame → List Rule}
    (h : ∃ v ∈ views, v.1.hasRepository = true) (behind : List (Frame × String)) :
    repositoryVerdict select isDir (views ++ behind) = repositoryVerdict select isDir views := by
  induction views with
  | nil => simp at h
  | cons v rest ih =>
    rw [List.cons_append, repositoryVerdict, repositoryVerdict]
    cases hv : v.1.hasRepository with
    | true => rfl
    | false =>
      rw [if_neg (by simp), if_neg (by simp), ih]
      simpa [hv] using h

/-- **Behind a repository `.gitignore` files do not count**, nor where there is none.  Of the
directories there only the `.ignore` files have a say. -/
theorem judge_append_congr {behind behind' : List (Frame × String)}
    (h : (∃ v ∈ views, v.1.hasRepository = true) ∨ (∀ v ∈ behind, v.1.hasRepository = false) ∧
      ∀ v ∈ behind', v.1.hasRepository = false)
    (hignore : ignoreVerdict isDir behind = ignoreVerdict isDir behind') :
    judge (views ++ behind) user isDir = judge (views ++ behind') user isDir := by
  have hany : ∀ {vs : List (Frame × String)}, (∀ v ∈ vs, v.1.hasRepository = false) →
      (vs.any fun v ↦ v.1.hasRepository) = false := fun hvs ↦
    List.any_eq_false.2 fun v hv ↦ by simp [hvs v hv]
  simp only [judge, ignoreVerdict_append, hignore, List.any_append]
  by_cases hheld : ∃ v ∈ views, v.1.hasRepository = true
  · simp only [List.any_eq_true.2 hheld, Bool.true_or, repositoryVerdict_append isDir hheld]
  · obtain ⟨hnone, hnone'⟩ := h.resolve_left hheld
    simp only [hany hnone, hany hnone', Bool.or_false]
    rw [if_neg (List.any_eq_true.not.2 hheld), if_neg (List.any_eq_true.not.2 hheld)]

end

/-! ## Further rules -/

/-- The two directories differ in nothing but their `.ignore` files and what is wrong with
files. -/
structure Frame.Agrees (f f' : Frame) : Prop where
  gitignore : f'.gitignore = f.gitignore
  exclude : f'.exclude = f.exclude
  hasRepository : f'.hasRepository = f.hasRepository

/-- The second directory has the same rules, or an `.ignore` file that the first one does not have
and that keeps nothing in. -/
structure Frame.Gains (f f' : Frame) : Prop extends f.Agrees f' where
  ignore : f'.ignore = f.ignore ∨ f.ignore = [] ∧ Ignore.KeepsNothing f'.ignore

/-- The two directories have the same rules. -/
structure Frame.IsSame (f f' : Frame) : Prop extends f.Agrees f' where
  ignore : f'.ignore = f.ignore

section

variable {views views' : List (Frame × String)} {user : Verdict} (isDir : Bool)

theorem repositoryVerdict_of_agrees {select : Frame → List Rule}
    (hselect : ∀ f f' : Frame, f.Agrees f' → select f' = select f)
    (h : List.Forall₂ (fun v v' ↦ v.1.Agrees v'.1 ∧ v'.2 = v.2) views views') :
    repositoryVerdict select isDir views' = repositoryVerdict select isDir views := by
  induction h with
  | nil => rfl
  | @cons v v' rest rest' hv _ ih =>
    rw [repositoryVerdict, repositoryVerdict, hselect _ _ hv.1, hv.1.hasRepository, hv.2, ih]

/-- Behind the `.ignore` files the same is decided. -/
theorem exists_judge_eq (h : List.Forall₂ (fun v v' ↦ v.1.Agrees v'.1 ∧ v'.2 = v.2) views views') :
    ∃ behind, judge views user isDir = (ignoreVerdict isDir views).or behind ∧
      judge views' user isDir = (ignoreVerdict isDir views').or behind := by
  have hany : (views'.any fun v ↦ v.1.hasRepository) = views.any fun v ↦ v.1.hasRepository := by
    induction h with
    | nil => rfl
    | cons hv _ ih => rw [List.any_cons, List.any_cons, hv.1.hasRepository, ih]
  refine ⟨_, rfl, ?_⟩
  rw [judge, hany, repositoryVerdict_of_agrees isDir (fun _ _ hf ↦ hf.gitignore) h,
    repositoryVerdict_of_agrees isDir (fun _ _ hf ↦ hf.exclude) h]

theorem verdict_of_gains {f f' : Frame} (h : f.Gains f') (path : String) :
    verdict f'.ignore path isDir = verdict f.ignore path isDir ∨
      verdict f.ignore path isDir = .silent ∧ verdict f'.ignore path isDir = .leaveOut := by
  rcases h.ignore with hsame | ⟨hnone, hkeep⟩
  · exact .inl (by rw [hsame])
  · have hsilent : verdict f.ignore path isDir = .silent := by
      rw [hnone]
      rfl
    rw [hsilent]
    cases hnew : verdict f'.ignore path isDir with
    | silent => exact .inl rfl
    | leaveOut => exact .inr ⟨rfl, rfl⟩
    | keep => exact absurd hnew (verdict_ne_keep hkeep path isDir)

/-- **Further rules leave out more** and change nothing else, if none of them keeps anything in. -/
theorem judge_mono (h : List.Forall₂ (fun v v' ↦ v.1.Gains v'.1 ∧ v'.2 = v.2) views views') :
    judge views' user isDir = judge views user isDir ∨ judge views' user isDir = .leaveOut := by
  have hignore : ignoreVerdict isDir views' = ignoreVerdict isDir views ∨
      ignoreVerdict isDir views' = .leaveOut := by
    induction h with
    | nil => exact .inl rfl
    | @cons v v' rest rest' hv _ ih =>
      rw [ignoreVerdict, ignoreVerdict, hv.2]
      rcases verdict_of_gains isDir hv.1 v.2 with hsame | ⟨-, hnew⟩
      · rw [hsame]
        cases verdict v.1.ignore v.2 isDir with
        | silent => exact ih
        | leaveOut => exact .inl rfl
        | keep => exact .inl rfl
      · rw [hnew]
        exact .inr rfl
  obtain ⟨behind, hjudge, hjudge'⟩ := exists_judge_eq isDir (h.imp fun _ _ hv ↦ ⟨hv.1.1, hv.2⟩)
  rw [hjudge, hjudge']
  rcases hignore with hsame | hnew
  · exact .inl (by rw [hsame])
  · exact .inr (by rw [hnew]; rfl)

/-- What two rows of directories with the same rules decide is the same. -/
theorem judge_congr (h : List.Forall₂ (fun v v' ↦ v.1.IsSame v'.1 ∧ v'.2 = v.2) views views') :
    judge views' user isDir = judge views user isDir := by
  have hignore : ignoreVerdict isDir views' = ignoreVerdict isDir views := by
    induction h with
    | nil => rfl
    | @cons v v' rest rest' hv _ ih => rw [ignoreVerdict, ignoreVerdict, hv.1.ignore, hv.2, ih]
  obtain ⟨behind, hjudge, hjudge'⟩ := exists_judge_eq isDir (h.imp fun _ _ hv ↦ ⟨hv.1.1, hv.2⟩)
  rw [hjudge, hjudge', hignore]

end

/-! ## Entries -/

/-- What is left out stays so when it is judged the same or is left out by a rule. -/
theorem Scope.leavesOut_mono {s s' : Scope} {path name : String} {isDir : Bool}
    (huser : s'.userVerdict path isDir = s.userVerdict path isDir)
    (h : ∀ user, judge (s'.views path) user isDir = judge (s.views path) user isDir ∨
      judge (s'.views path) user isDir = .leaveOut) (hkept : s'.leavesOut path name isDir = false) :
    s.leavesOut path name isDir = false := by
  rw [leavesOut, huser] at hkept
  rw [leavesOut]
  rcases h (s.userVerdict path isDir) with hsame | hnew
  · rwa [hsame] at hkept
  · rw [hnew] at hkept
    cases hkept

theorem Scope.leavesOut_congr {s s' : Scope} {path name : String} {isDir : Bool}
    (huser : s'.userVerdict path isDir = s.userVerdict path isDir)
    (h : ∀ user, judge (s'.views path) user isDir = judge (s.views path) user isDir) :
    s'.leavesOut path name isDir = s.leavesOut path name isDir := by
  rw [leavesOut, leavesOut, huser, h]

end HostOverlay.Ignore
