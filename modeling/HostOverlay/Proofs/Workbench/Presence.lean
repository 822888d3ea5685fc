import HostOverlay.Proofs.Workbench.Answers
import HostOverlay.Proofs.Workbench.Files

/-!
# What it means that a file is there

Three answers of the host of a workbench say whether there is a file at a path: it has a snapshot,
its version is not zero, it exists.  Each of them comes from a look at the disk of its own.

For foreign files the first two agree (`foreignSnapshot_versioned`).  Storage decides whether there
is a snapshot, and it has whatever the path leads to; the version is zero when the path leads
nowhere.  So an editor that goes by versions notices when a foreign file comes or goes.

The third one does not agree with them.  A file exists when it is a regular one, and a directory
with a foreign name is something that storage has.  It is served as a module, though the same host
says that there is no such file.  This is the only way in which the two can differ:
`fileExists_iff_of_snapshot`.
-/

set_option autoImplicit false

namespace HostOverlay.Workbench

/-! ## Versions -/

/-- A version made of a size and a time is not zero. -/
theorem append_dash_append_ne_zero (size time : String) : size ++ "-" ++ time ≠ "0" := by
  intro h
  have hdash : '-' ∈ (size ++ "-" ++ time).toList := by simp [String.toList_append]
  rw [h] at hdash
  revert hdash
  decide

/-- The version is zero when the path leads nowhere, for whatever reason. -/
theorem version_of_error {d : Disk} {path : String} {e : IoError} (h : d.lookup path = .error e) :
    version d path = "0" := by
  rw [version, Disk.metadata, h]
  rfl

theorem version_of_found {d : Disk} {path : String} {found : Place × Node}
    (h : d.lookup path = .ok found) : version d path ≠ "0" := by
  obtain ⟨size, modified, hmetadata⟩ : ∃ size modified, d.metadata path = .ok (size, modified) := by
    obtain ⟨place, node⟩ := found
    rw [Disk.metadata, h]
    cases node with
    | file content modified => exact ⟨_, _, rfl⟩
    | link target => exact ⟨_, _, rfl⟩
    | dir entries => exact ⟨_, _, rfl⟩
  rw [version, hmetadata]
  exact append_dash_append_ne_zero _ _

/-! ## Snapshots of foreign files -/

variable {σ : Type} [Traced σ] [OnDisk σ] {root : String} {files : List String}

/-- **What the path of a foreign file leads to decides about its snapshot.**  Whatever it is, it
gets a synthesized one, and where there is nothing the host has none either. -/
theorem foreignSnapshot_cases {path : String} (h : isForeign path = true) (root : String)
    (files : List String) (synthesizer : Synthesizer σ) (s : σ) :
    let answer :=
      ((Overlay.host (diskHost root files) .onDisk synthesizer).scriptSnapshot path).run s
    (∃ found, (OnDisk.disk s).lookup path = .ok found ∧
      answer = (some <$> synthesizer.synthesize path).run
        (Traced.emit (Overlay.servingNote path) s)) ∨
    ((OnDisk.disk s).lookup path = .error .notFound ∧ answer.1 = .ok none) ∨
    ∃ e, e ≠ .notFound ∧ (OnDisk.disk s).lookup path = .error e ∧ answer.1 = .error (.io e) := by
  intro answer
  have hstorage : (Storage.onDisk : Storage σ).present path s =
    ((OnDisk.disk s).present path, s) := rfl
  rcases hlookup : (OnDisk.disk s).lookup path with e | found
  · by_cases he : e = .notFound
    · subst he
      have habsent := Disk.present_eq_ok_false_iff.2 hlookup
      rw [habsent] at hstorage
      refine .inr (.inl ⟨rfl, ?_⟩)
      rw [show answer = _ from Overlay.scriptSnapshot_absent h hstorage,
        (reads_plainSnapshot root files path s).1]
      exact plainSnapshotOn_of_absent habsent
    · have hpresent : (OnDisk.disk s).present path = .error e := by
        rw [Disk.present, hlookup]
        cases e with
        | notFound => exact absurd rfl he
        | _ => rfl
      rw [hpresent] at hstorage
      refine .inr (.inr ⟨e, he, rfl, ?_⟩)
      rw [show answer = _ from Overlay.scriptSnapshot_failed h hstorage]
  · rw [Disk.present_eq_ok_true_iff.2 ⟨found, hlookup⟩] at hstorage
    exact .inl ⟨found, rfl, Overlay.scriptSnapshot_present h hstorage⟩

/-- Whatever a foreign path leads to is served as the same text. -/
theorem foreignSnapshot_of_found {path : String} (h : isForeign path = true) {s : σ}
    {found : Place × Node} (hfound : (OnDisk.disk s).lookup path = .ok found) (root : String)
    (files : List String) (source : String) :
    (((layer root files source : Host σ).scriptSnapshot path).run s).1 = .ok (some ⟨source⟩) := by
  rcases foreignSnapshot_cases h root files (.placeholder source) s with
    ⟨-, -, hanswer⟩ | ⟨hlookup, -⟩ | ⟨e, -, hlookup, -⟩
  · rw [layer, hanswer]
    rfl
  · cases hfound.symm.trans hlookup
  · cases hfound.symm.trans hlookup

/-- The two answers about a foreign file, by what its path leads to. -/
theorem foreignSnapshot_version_cases {path : String} (h : isForeign path = true) (root : String)
    (files : List String) (source : String) (s : σ) :
    let snapshot := (((layer root files source : Host σ).scriptSnapshot path).run s).1
    let version := ((layer root files source : Host σ).scriptVersion path s).1
    (∃ found, (OnDisk.disk s).lookup path = .ok found ∧
      snapshot = .ok (some ⟨source⟩) ∧ version ≠ "0") ∨
    ((OnDisk.disk s).lookup path = .error .notFound ∧ snapshot = .ok none ∧ version = "0") ∨
    ∃ e, e ≠ .notFound ∧ (OnDisk.disk s).lookup path = .error e ∧
      snapshot = .error (.io e) ∧ version = "0" := by
  intro snapshot version
  rcases foreignSnapshot_cases h root files (.placeholder source) s with
    ⟨found, hlookup, -⟩ | ⟨hlookup, hanswer⟩ | ⟨e, he, hlookup, hanswer⟩
  · exact .inl ⟨found, hlookup, foreignSnapshot_of_found h hlookup root files source,
      version_of_found hlookup⟩
  · exact .inr (.inl ⟨hlookup, hanswer, version_of_error hlookup⟩)
  · exact .inr (.inr ⟨e, he, hlookup, hanswer, version_of_error hlookup⟩)

/-- **The snapshot of a foreign file and its version go together.**  There is a snapshot exactly
when the version is not zero, and it is always the same text, so what the file holds is never shown.
There is none exactly when the path leads to nothing; any other failure is reported.  So between two
moments at which the snapshot could be given, and was not the same, the version has changed. -/
theorem foreignSnapshot_versioned {path : String} (h : isForeign path = true) (root : String)
    (files : List String) (source : String) (s : σ) :
    let snapshot (s : σ) := (((layer root files source : Host σ).scriptSnapshot path).run s).1
    let version (s : σ) := ((layer root files source : Host σ).scriptVersion path s).1
    (snapshot s = .ok (some ⟨source⟩) ↔ version s ≠ "0") ∧
    (snapshot s = .ok none ↔ (OnDisk.disk s).lookup path = .error .notFound) ∧
    (snapshot s = .ok (some ⟨source⟩) ∨ snapshot s = .ok none ∨
      ∃ e, snapshot s = .error (.io e)) ∧
    ∀ (s' : σ) (text text' : Option Snapshot), snapshot s = .ok text → snapshot s' = .ok text' →
      text ≠ text' → version s ≠ version s' := by
  intro snapshot version
  have hcases := foreignSnapshot_version_cases h root files source (σ := σ)
  -- an answer that is no failure is a function of the version
  have hserved (s : σ) (text : Option Snapshot) (htext : snapshot s = .ok text) :
      text = if version s = "0" then none else some ⟨source⟩ := by
    rcases hcases s with ⟨found, -, hs, hv⟩ | ⟨-, hs, hv⟩ | ⟨e, -, -, hs, -⟩
    · rw [if_neg hv]
      exact Except.ok.inj (htext.symm.trans hs)
    · rw [if_pos hv]
      exact Except.ok.inj (htext.symm.trans hs)
    · cases htext.symm.trans hs
  have hdiffer (s' : σ) (text text' : Option Snapshot) (htext : snapshot s = .ok text)
      (htext' : snapshot s' = .ok text') (hne : text ≠ text') : version s ≠ version s' := by
    intro hversion
    apply hne
    rw [hserved s text htext, hserved s' text' htext', hversion]
  rcases hcases s with ⟨found, hlookup, hs, hv⟩ | ⟨hlookup, hs, hv⟩ | ⟨e, he, hlookup, hs, hv⟩
  · exact ⟨iff_of_true hs hv, iff_of_false (by simp [snapshot, hs]) (by simp [hlookup]), .inl hs,
      hdiffer⟩
  · exact ⟨iff_of_false (by simp [snapshot, hs]) (absurd hv), iff_of_true hs hlookup,
      .inr (.inl hs), hdiffer⟩
  · exact ⟨iff_of_false (by simp [snapshot, hs]) (absurd hv),
      iff_of_false (by simp [snapshot, hs]) (by simpa [hlookup] using he), .inr (.inr ⟨e, hs⟩),
      hdiffer⟩

/-- A world with the given entries in its working directory. -/
def workConsole (entries : List (String × Node)) : Cli.Console where
  disk := workDisk entries

/-- A link that leads nowhere, and then to a directory: the version of the foreign file that the
link stands for does not stay the same. -/
theorem foreignSnapshot_versioned_of_link :
    let host : Host Cli.Console := layer "/tmp/tz000000" [] "export type A = 1;"
    let before := workConsole [("g.tzen", .link "lib")]
    let after := workConsole [("g.tzen", .link "lib"), ("lib", .dir [])]
    isForeign "g.tzen" = true ∧
    ((host.scriptSnapshot "g.tzen").run before).1 = .ok none ∧
    ((host.scriptSnapshot "g.tzen").run after).1 = .ok (some ⟨"export type A = 1;"⟩) ∧
    (host.scriptVersion "g.tzen" before).1 ≠ (host.scriptVersion "g.tzen" after).1 := by
  intro host before after
  have hforeign : isForeign "g.tzen" = true := by decide
  obtain ⟨-, hnone, -, hversion⟩ := foreignSnapshot_versioned hforeign "/tmp/tz000000" []
    "export type A = 1;" before
  obtain ⟨hsome, -⟩ := foreignSnapshot_versioned hforeign "/tmp/tz000000" []
    "export type A = 1;" after
  have hvacant : (workDisk [("g.tzen", .link "lib")]).lookup "g.tzen" = .error .notFound := rfl
  have hfound : (workDisk [("g.tzen", .link "lib"), ("lib", .dir [])]).lookup "g.tzen" =
    .ok (["tmp", "tz000000", "lib"], .dir []) := rfl
  have hbefore := hnone.2 hvacant
  have hafter := hsome.2 (version_of_found hfound)
  exact ⟨hforeign, hbefore, hafter, hversion after none _ hbefore hafter (by simp)⟩

/-! ## Existence -/

/-- The disk itself has snapshots of regular files only. -/
theorem isFile_of_plainSnapshotOn {d : Disk} {path : String} {snapshot : Snapshot}
    (h : plainSnapshotOn path d = .ok (some snapshot)) : d.isFile path = true := by
  rcases d.lookup_cases path with
    ⟨e, hlookup⟩ | ⟨place, content, modified, hlookup⟩ | ⟨place, entries, hlookup⟩
  · rw [plainSnapshotOn, readText, Disk.readText, Disk.read, hlookup] at h
    cases e <;> cases h
  · rw [Disk.isFile, hlookup]
    rfl
  · rw [plainSnapshotOn, readText, Disk.readText, Disk.read, hlookup] at h
    cases h

/-- **What is served exists, unless it is a directory with a foreign name.** -/
theorem fileExists_iff_of_snapshot {path : String} {synthesizer : Synthesizer σ} {s : σ}
    {snapshot : Snapshot}
    (h : (((Overlay.host (diskHost root files) .onDisk synthesizer).scriptSnapshot path).run s).1 =
      .ok (some snapshot)) :
    ((Overlay.host (diskHost root files) .onDisk synthesizer).fileExists path s).1 = true ↔
      ¬ (isForeign path = true ∧ (OnDisk.disk s).isDir path = true) := by
  have hexists : ((Overlay.host (diskHost root files) .onDisk synthesizer).fileExists path s).1 =
    (OnDisk.disk s).isFile path := rfl
  rw [hexists]
  cases hforeign : isForeign path with
  | false =>
    rw [Overlay.scriptSnapshot_other _ _ _ hforeign, (reads_plainSnapshot root files path s).1] at h
    exact iff_of_true (isFile_of_plainSnapshotOn h) (by simp)
  | true =>
    rcases (OnDisk.disk s).lookup_cases path with
      ⟨e, hlookup⟩ | ⟨place, content, modified, hlookup⟩ | ⟨place, entries, hlookup⟩
    · -- where nothing can be found there is nothing to serve
      rcases foreignSnapshot_cases hforeign root files synthesizer s with
        ⟨found, hfound, -⟩ | ⟨-, hanswer⟩ | ⟨e', -, -, hanswer⟩
      · cases hlookup.symm.trans hfound
      · cases h.symm.trans hanswer
      · cases h.symm.trans hanswer
    · rw [Disk.isFile, Disk.isDir, hlookup]
      simp [Node.isFile, Node.isDir]
    · rw [Disk.isFile, Disk.isDir, hlookup]
      simp [Node.isFile, Node.isDir]

/-- A link with a foreign name to a file that is no text: it is served, and it exists. -/
theorem fileExists_iff_of_snapshot_through_link :
    let host : Host Cli.Console := layer "/tmp/tz000000" [] "export type A = 1;"
    let s := workConsole [("g.tzen", .link "a.ts"), ("a.ts", .file ⟨#[0xff]⟩ 0)]
    ((host.scriptSnapshot "g.tzen").run s).1 = .ok (some ⟨"export type A = 1;"⟩) ∧
      (host.fileExists "g.tzen" s).1 = true := by
  intro host s
  have hlookup : (workDisk [("g.tzen", .link "a.ts"), ("a.ts", .file ⟨#[0xff]⟩ 0)]).lookup
    "g.tzen" = .ok (["tmp", "tz000000", "a.ts"], .file ⟨#[0xff]⟩ 0) := rfl
  have hserved := foreignSnapshot_of_found (s := s) (show isForeign "g.tzen" = true by decide)
    hlookup "/tmp/tz000000" [] "export type A = 1;"
  refine ⟨hserved, (fileExists_iff_of_snapshot hserved).2 ?_⟩
  rw [Disk.isDir, show (OnDisk.disk s).lookup "g.tzen" = _ from hlookup]
  decide

/-- **A directory with a foreign name is served as a module**, in a workbench whose host says that
there is no such file. -/
theorem snapshot_of_directory :
    ∃ w s', (openAt "." {}).run (workConsole [("d.tzen", .dir [])]) = (.ok w, s') ∧
      ((w.host.scriptSnapshot "/tmp/tz000000/d.tzen").run s').1 =
        .ok (some ⟨"export type A = 1;"⟩) ∧
      (w.host.fileExists "/tmp/tz000000/d.tzen" s').1 = false := by
  obtain ⟨w, s', hopen⟩ := exists_openAt (show "." ≠ "" by decide) {}
    (workConsole [("d.tzen", .dir [])])
  have hdisk : OnDisk.disk s' = workDisk [("d.tzen", .dir [])] := by
    have hreads := (reads_openAt "." {} (workConsole [("d.tzen", .dir [])])).2
    rwa [hopen] at hreads
  have hlookup : (workDisk [("d.tzen", .dir [])]).lookup "/tmp/tz000000/d.tzen" =
    .ok (["tmp", "tz000000", "d.tzen"], .dir []) := rfl
  rw [← hdisk] at hlookup
  refine ⟨w, s', hopen, ?_⟩
  obtain ⟨root, home, -, rfl⟩ := exists_eq_opened hopen
  refine ⟨foreignSnapshot_of_found (by decide) hlookup root _ _, ?_⟩
  have hfile : (OnDisk.disk s').isFile "/tmp/tz000000/d.tzen" = false := by
    rw [Disk.isFile, hlookup]
    rfl
  exact (reads_fileExists root _ _ _ s').1.trans hfile

end HostOverlay.Workbench
