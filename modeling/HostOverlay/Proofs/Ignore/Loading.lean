import HostOverlay.Proofs.Disk.Addition
import HostOverlay.Proofs.Disk.Walk
import HostOverlay.Proofs.Ignore.Judging

/-!
# The ignore files of a directory, beside a new one

The rules of a directory are read from a handful of files, and what is read from a path is a matter
of what is seen there.  So a new `.ignore` file that no link leads to is a gain for its own
directory, if it keeps nothing in, and changes nothing for all others.

* `agrees_load`: a new `.ignore` leaves all other ignore files as they were.
* `gains_load`: it is new where it is read at all.
* `ignore_load_eq`: it is read for no other directory.
-/

set_option autoImplicit false

namespace HostOverlay.Ignore

open Disk (HasNoLinkTo IsAddition)

/-! ## What is read from a path that looks the same -/

section

variable {d d' : Disk}

theorem File.load_congr {path : String} (h : d'.sight path = d.sight path) :
    File.load d' path = File.load d path := by
  have hfetch := Disk.toOption_fetch_congr h
  rw [File.load, File.load]
  cases hold : d.fetch path with
  | error e =>
    rw [hold] at hfetch
    cases hnew : d'.fetch path with
    | error e' => rfl
    | ok content =>
      rw [hnew] at hfetch
      cases hfetch
  | ok content =>
    rw [hold] at hfetch
    cases hnew : d'.fetch path with
    | error e' =>
      rw [hnew] at hfetch
      cases hfetch
    | ok content' =>
      rw [hnew] at hfetch
      obtain rfl := Option.some.inj hfetch
      rfl

theorem toOption_firstLine_congr {path : String} (h : d'.sight path = d.sight path) :
    (firstLine d' path).toOption = (firstLine d path).toOption := by
  have hline : ∀ d : Disk, (firstLine d path).toOption =
      (d.fetch path).toOption.bind fun content ↦
        (textLines content).head?.bind fun line ↦
          (line.filter fun line ↦ !line.contains '\x00').map String.ofList := by
    intro d
    rw [firstLine]
    cases hfetch : d.fetch path with
    | error e => cases e <;> rfl
    | ok content =>
      simp only [Except.toOption, Option.bind_some]
      rcases textLines content with _ | ⟨_ | line, rest⟩
      · rfl
      · rfl
      · simp only [List.head?_cons, Option.bind_some, Option.filter_some]
        cases line.contains '\x00' <;> rfl
  rw [hline, hline, Disk.toOption_fetch_congr h]

theorem toOption_bind {ε α β : Type} (x : Except ε α) (f : α → Except ε β) :
    (x >>= f).toOption = x.toOption.bind fun a ↦ (f a).toOption := by
  cases x <;> rfl

/-- The directory with the shared files, without the complaints. -/
theorem toOption_sharedDirectory (d : Disk) (dir : String) :
    (sharedDirectory d dir).toOption =
      if d.reachesFile (Path.join dir ".git") then
        (firstLine d (Path.join dir ".git")).toOption.bind fun line ↦
          (after? "gitdir: " line).bind fun named ↦
            (firstLine d (Path.join named "commondir")).toOption.map fun shared ↦
              if ['.'].isPrefixOf shared.toList then Path.join named shared else shared
      else some (Path.join dir ".git") := by
  rw [sharedDirectory]
  cases d.reachesFile (Path.join dir ".git") with
  | false => rfl
  | true =>
    simp only [Bool.not_true, Bool.false_eq_true, if_false, if_true, toOption_bind]
    congr 1
    funext line
    cases after? "gitdir: " line with
    | none => rfl
    | some named =>
      simp only [toOption_bind, Option.bind_some]
      cases firstLine d (Path.join named "commondir") with
      | error e => rfl
      | ok shared =>
        cases hdot : ['.'].isPrefixOf shared.toList with
        | false => simp only [Except.toOption, Option.bind_some, Option.map_some, hdot]; rfl
        | true => simp only [Except.toOption, Option.bind_some, Option.map_some, hdot]; rfl

theorem exclude_load (d : Disk) (dir : String) : (Frame.load d dir).exclude =
    ((sharedDirectory d dir).toOption.map fun shared ↦
      (File.load d (Path.join shared "info/exclude")).rules).getD [] := by
  rw [Frame.load]
  cases sharedDirectory d dir <;> rfl

end

/-! ## Beside a new `.ignore` -/

section

variable {d d' : Disk} {directory : Place} {new : Node}
  (h : d.IsAddition (directory ++ [".ignore"]) new d')

include h

/-- **A new `.ignore` leaves all other ignore files as they were**, when no link leads to it. -/
theorem agrees_load (hlinks : HasNoLinkTo d'.root (directory ++ [".ignore"])) (dir : String) :
    (Frame.load d dir).Agrees (Frame.load d' dir) := by
  have hsame : ∀ p {r n : String}, (Path.segments r).getLast? = some n → Path.IsName n →
      n ≠ ".ignore" → d'.sight (Path.join p r) = d.sight (Path.join p r) := fun p r n hr hn hne ↦
    h.sight_eq_of_getLast? rfl hlinks ((Path.getLast?_segments_join p r).trans hr) hn hne
  have hgit : ∀ p, d'.sight (Path.join p ".git") = d.sight (Path.join p ".git") := fun p ↦
    hsame p (n := ".git") (by decide) (by decide) (by decide)
  have hshared : (sharedDirectory d' dir).toOption = (sharedDirectory d dir).toOption := by
    have hcommon : ∀ named, (firstLine d' (Path.join named "commondir")).toOption =
        (firstLine d (Path.join named "commondir")).toOption := fun named ↦
      toOption_firstLine_congr (hsame named (n := "commondir") (by decide) (by decide) (by decide))
    simp only [toOption_sharedDirectory, Disk.reachesFile_congr (hgit dir),
      toOption_firstLine_congr (hgit dir), hcommon]
  refine ⟨?_, ?_, ?_⟩
  · exact congrArg File.rules
      (File.load_congr (hsame dir (n := ".gitignore") (by decide) (by decide) (by decide)))
  · have hexclude : ∀ shared, File.load d' (Path.join shared "info/exclude") =
        File.load d (Path.join shared "info/exclude") := fun shared ↦
      File.load_congr (hsame shared (n := "exclude") (by decide) (by decide) (by decide))
    simp only [exclude_load, hshared, hexclude]
  · have hjj := hsame dir (r := ".jj") (n := ".jj") (by decide) (by decide) (by decide)
    exact congrArg₂ or (Disk.reaches_congr (hgit dir)) (Disk.reaches_congr hjj)

/-- **A new `.ignore` that keeps nothing in is a gain**, for whatever directory it is read. -/
theorem gains_load (hlinks : HasNoLinkTo d'.root (directory ++ [".ignore"]))
    {content : ByteArray} {modified : Int} (hnew : new = .file content modified)
    (hkeep : KeepsNothing (File.ofContent content).rules) (dir : String) :
    (Frame.load d dir).Gains (Frame.load d' dir) := by
  refine ⟨agrees_load h hlinks dir, ?_⟩
  rcases h.sight_eq_or (Path.join dir ".ignore") with hsame | ⟨hnone, hseek⟩
  · exact .inl (congrArg File.rules (File.load_congr hsame))
  · right
    have hload : (File.load d' (Path.join dir ".ignore")).rules =
        (File.ofContent content).rules := by
      rw [File.load, Disk.fetch_of_seek (hnew ▸ hseek)]
    refine ⟨Disk.File.rules_load_of_absent ?_, ?_⟩
    · rw [Disk.reaches_eq, hnone]
      rfl
    · rwa [← hload] at hkeep

/-- **A new `.ignore` is read for no other directory**, when no link leads to it. -/
theorem ignore_load_eq (hlinks : HasNoLinkTo d'.root (directory ++ [".ignore"])) {dir : String}
    (hdir : dir ≠ "") (hother : ∀ entries, d'.seek dir ≠ .ok (directory, .dir entries)) :
    (Frame.load d' dir).ignore = (Frame.load d dir).ignore :=
  congrArg File.rules (File.load_congr (h.sight_join_eq rfl hlinks hdir (by decide) hother))

end

end HostOverlay.Ignore
