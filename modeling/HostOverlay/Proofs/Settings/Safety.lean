import HostOverlay.Proofs.Cli.Effects
import HostOverlay.Proofs.Settings.File

/-!
# Saving settings spoils nothing

Settings are saved at one place: at the file that the path leads to, if that may be replaced, or at
the free name that the path ends with, behind whatever links there are.  Everything else on the disk
is left as it is, and where there is no such place everything is.

* `save_eq_ok_iff`: where settings are saved, and what the disk is then.
* `load_eq_none_iff`: when there are no settings to load.
* `save_is_safe`: both together, with what a command line does to the disk of its console.
-/

set_option autoImplicit false

namespace HostOverlay.Settings

/-- The place that settings are saved at: there is a file that the path leads to and that may be
replaced, or nothing is there and the path ends with a free name. -/
def IsDestination (d : Disk) (path : String) (force : Bool) (place : Place) : Prop :=
  (force = true ∧ ∃ content modified, d.lookup path = .ok (place, .file content modified)) ∨
    (d.lookup path = .error .notFound ∧ ∃ directory name,
      d.locate .writing path = .ok (.vacant directory name) ∧ place = directory ++ [name])

theorem leadsSomewhere_iff {d : Disk} {path : String} :
    d.leadsSomewhere path = true ↔ ∃ found, d.lookup path = .ok found := by
  rw [Disk.leadsSomewhere]
  cases d.lookup path with
  | error e => simp [Except.isOk, Except.toBool]
  | ok found => simp [Except.isOk, Except.toBool]

section

variable {d : Disk} {path : String} {s : Settings} {force : Bool}

/-- A place that settings are saved at is where the path leads to write to, and a file can be put
there. -/
theorem IsDestination.exists_locate {place : Place} (h : IsDestination d path force place) :
    ∃ l, d.locate .writing path = .ok l ∧ l.place = place ∧ d.root.IsOpenAt place := by
  obtain ⟨l, hlocate, hfile, hplace⟩ : ∃ l, d.locate .writing path = .ok l ∧
      (∀ p node, l = .entry p node → node.shape = .file) ∧ l.place = place := by
    rcases h with ⟨-, content, modified, hlookup⟩ | ⟨-, directory, name, hlocate, rfl⟩
    · obtain ⟨hpath, hleads⟩ := Disk.lookup_eq_ok_iff_leads.1 hlookup
      refine ⟨_, Disk.locate_eq_ok_iff_leads.2 ⟨hpath, hleads.writing_of_target rfl⟩, ?_, rfl⟩
      rintro _ _ ⟨⟩
      rfl
    · exact ⟨_, hlocate, by simp, rfl⟩
  exact ⟨l, hlocate, hplace, hplace ▸ (Disk.Landing.isIn_locate hlocate).isOpenAt hfile⟩

/-- **Where settings are saved**, and what the disk is then. -/
theorem save_eq_ok_iff {d' : Disk} : (save path s force).run d = (.ok (), d') ↔
    ∃ place, IsDestination d path force place ∧
      d' = d.putAt place (.file s.toToml.toUTF8 0) := by
  constructor
  · intro h
    rcases run_save_cases d path s force with
      ⟨-, -, hsave⟩ | ⟨hforce, ⟨e, hsave⟩ | ⟨l, hlocate, hopen, hsave⟩⟩
    · cases (Prod.mk.inj (hsave.symm.trans h)).1
    · cases (Prod.mk.inj (hsave.symm.trans h)).1
    obtain ⟨-, rfl⟩ := Prod.mk.inj (hsave.symm.trans h)
    obtain ⟨hpath, hleads⟩ := Disk.locate_eq_ok_iff_leads.1 hlocate
    have htarget := Disk.locate_eq_ok_iff_leads.2 ⟨hpath, hleads.target_of_writing⟩
    refine ⟨l.place, ?_, rfl⟩
    cases l with
    | vacant directory name =>
      exact .inr ⟨Disk.lookup_of_locate htarget, directory, name, hlocate, rfl⟩
    | entry place node =>
      obtain ⟨content, modified, rfl⟩ :=
        Node.exists_of_shape_eq_file (hopen.shape_eq node hleads.isIn)
      have hlookup : d.lookup path = .ok (place, .file content modified) :=
        Disk.lookup_of_locate htarget
      exact .inl ⟨hforce (leadsSomewhere_iff.2 ⟨_, hlookup⟩), content, modified, hlookup⟩
  · rintro ⟨place, hplace, rfl⟩
    obtain ⟨l, hlocate, rfl, hopen⟩ := hplace.exists_locate
    have hfree : ¬ (d.leadsSomewhere path && !force) = true := by
      rcases hplace with ⟨rfl, -⟩ | ⟨hnone, -⟩
      · simp
      · rw [Disk.leadsSomewhere, hnone]
        exact Bool.false_ne_true
    rw [save, run_get_bind, if_neg hfree]
    have hwrite := Disk.run_write_of_locate hlocate hopen s.toToml.toUTF8
    exact congrArg (fun r ↦ (r.1.mapError FileError.io, r.2)) hwrite

/-- What is there already is left unless it may be replaced. -/
theorem save_of_taken (h : d.leadsSomewhere path = true) :
    (save path s false).run d = (.error (.taken path), d) := by
  rcases run_save_cases d path s false with ⟨-, -, hsave⟩ | ⟨hforce, -⟩
  · exact hsave
  · cases hforce h

/-- **There are no settings to load** exactly where the path leads to nothing. -/
theorem load_eq_none_iff :
    ((load path).run d).1 = .ok none ↔ ∀ found, d.lookup path ≠ .ok found := by
  rw [load, run_get_bind]
  split
  · rename_i hthere
    obtain ⟨found, hfound⟩ := leadsSomewhere_iff.1 hthere
    refine iff_of_false (fun h ↦ ?_) fun h ↦ h found hfound
    split at h
    · cases h
    · split at h
      · cases h
      · cases h
  · rename_i hnone
    exact iff_of_true rfl fun found hfound ↦ hnone (leadsSomewhere_iff.2 ⟨found, hfound⟩)

end

/-- **Saving settings spoils nothing.**  What is there already is refused unless it may be replaced;
a save that fails, for whatever reason, leaves the disk as it was; settings are saved exactly when
there is a place for them, and then the path leads to them and every other entry is as it was;
loading changes nothing, and there is nothing to load exactly where the path leads to nothing; and a
command line changes the disk only by saving settings with success. -/
theorem save_is_safe (d : Disk) (path : String) (s : Settings) :
    ((∃ found, d.lookup path = .ok found) →
      (save path s false).run d = (.error (.taken path), d)) ∧
    (∀ force e d', (save path s force).run d = (.error e, d') → d' = d) ∧
    (∀ force, (∃ d', (save path s force).run d = (.ok (), d')) ↔
      ∃ place, IsDestination d path force place) ∧
    (∀ force d', (save path s force).run d = (.ok (), d') →
      ∃ place, IsDestination d path force place ∧
        d'.lookup path = .ok (place, .file s.toToml.toUTF8 0) ∧
        d'.workingDirectory = d.workingDirectory ∧
        ∀ p, p ≠ place → (d'.root.get? p).map Node.shallow = (d.root.get? p).map Node.shallow) ∧
    ((load path).run d).2 = d ∧
    (((load path).run d).1 = .ok none ↔ ∀ found, d.lookup path ≠ .ok found) ∧
    ∀ arguments console, console.disk = d →
      (Cli.run arguments console).2.disk = d ∨
        (Cli.run arguments console).1 = 0 ∧ ∃ invocation force,
          Cli.Invocation.read arguments = .ok invocation ∧ invocation.command = .init force ∧
          (save (invocation.settingsPath.getD defaultPath) {} force).run d =
            (.ok (), (Cli.run arguments console).2.disk) := by
  refine ⟨fun hthere ↦ save_of_taken (leadsSomewhere_iff.2 hthere),
    fun force e d' ↦ eq_of_save_eq_error, fun force ↦ ?_, ?_, by rw [run_load], load_eq_none_iff,
    ?_⟩
  · constructor
    · rintro ⟨d', hsave⟩
      obtain ⟨place, hplace, -⟩ := save_eq_ok_iff.1 hsave
      exact ⟨place, hplace⟩
    · rintro ⟨place, hplace⟩
      exact ⟨_, save_eq_ok_iff.2 ⟨place, hplace, rfl⟩⟩
  · intro force d' hsave
    obtain ⟨place, hplace, rfl⟩ := save_eq_ok_iff.1 hsave
    obtain ⟨l, hlocate, rfl, hopen⟩ := hplace.exists_locate
    exact ⟨l.place, hplace, Disk.lookup_putAt hlocate hopen _ _, rfl,
      (Node.isPut_put hopen _ _).get_other⟩
  · rintro arguments console rfl
    exact Cli.disk_run arguments console

/-- A directory is not replaced and cannot be written to, a link to a file that is not there yet
leads to the file afterwards, and listing files changes nothing. -/
theorem save_is_safe_with_link :
    (save "/w" oddSettings false).run linkDisk = (.error (.taken "/w"), linkDisk) ∧
    (∃ e, (save "/w" oddSettings true).run linkDisk = (.error e, linkDisk)) ∧
    (∃ d' place, (save "link.toml" oddSettings false).run linkDisk = (.ok (), d') ∧
      IsDestination linkDisk "link.toml" false place ∧
      d'.lookup "link.toml" = .ok (place, .file oddSettings.toToml.toUTF8 0) ∧
      d'.root.get? ["w", "link.toml"] = some (.link "tzen.toml")) ∧
    (Cli.run ["files"] { disk := linkDisk }).2.disk = linkDisk := by
  refine ⟨(save_is_safe linkDisk "/w" oddSettings).1 ⟨_, rfl⟩, ?_, ?_, ?_⟩
  · obtain ⟨d', hsave⟩ :
        ∃ d', (save "/w" oddSettings true).run linkDisk = (.error (.io .isDirectory), d') :=
      ⟨_, rfl⟩
    obtain rfl := (save_is_safe linkDisk "/w" oddSettings).2.1 true _ d' hsave
    exact ⟨_, hsave⟩
  · have hsave : ∃ d', (save "link.toml" oddSettings false).run linkDisk = (.ok (), d') :=
      ⟨_, rfl⟩
    obtain ⟨d', hsave⟩ := hsave
    obtain ⟨place, hplace, hlookup, -, hothers⟩ :=
      (save_is_safe linkDisk "link.toml" oddSettings).2.2.2.1 false d' hsave
    have hne : ["w", "link.toml"] ≠ place := by
      rintro rfl
      have hlink : linkDisk.root.get? ["w", "link.toml"] = some (.link "tzen.toml") := rfl
      obtain ⟨l, -, -, hopen⟩ := hplace.exists_locate
      cases hopen.shape_eq _ hlink
    obtain ⟨node, hnode, hshallow⟩ := Option.map_eq_some_iff.1 (hothers _ hne)
    obtain rfl := Node.eq_link_of_shape_eq (Node.shape_eq_of_shallow_eq hshallow)
    exact ⟨d', place, hsave, hplace, hlookup, hnode⟩
  · have hread : Cli.Invocation.read ["files"] = .ok ⟨false, none, .files "." .text⟩ := rfl
    rcases (save_is_safe linkDisk "" oddSettings).2.2.2.2.2.2 ["files"] { disk := linkDisk } rfl
      with hsame | ⟨-, invocation, force, hinit, hcommand, -⟩
    · exact hsame
    · obtain rfl := Except.ok.inj (hread.symm.trans hinit)
      cases hcommand

end HostOverlay.Settings
