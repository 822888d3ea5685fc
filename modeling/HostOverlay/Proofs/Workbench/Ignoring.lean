import HostOverlay.Proofs.Disk.Kept
import HostOverlay.Proofs.Ignore.Below
import HostOverlay.Proofs.Ignore.Judging
import HostOverlay.Proofs.Ignore.Plain
import HostOverlay.Proofs.Workbench.Files
import Mathlib.Tactic.Set

/-!
# What `.gitignore` files keep out of a project

A name on a line of a `.gitignore` keeps out of the project all that has this name below the
directory of the file, but only inside a repository: there has to be one at or above the directory,
and none between it and the entry.  `.gitignore` files that stand in no repository have no say.

* `mem_fileNames_iff`: the files of a project are those that names lead to which are kept, as they
  are shown.
* `fileNames_gitignore`: when the lines of a `.gitignore` count.
* `fileNames_gitignore_without_repository`: a `.gitignore` in no repository, and a file that it
  names.
-/

set_option autoImplicit false

namespace HostOverlay

namespace Disk

open Ignore

/-- The directory at `dir` holds a repository. -/
def HoldsRepository (d : Disk) (dir : String) : Prop :=
  d.reaches (Path.join dir ".git") = true ∨ d.reaches (Path.join dir ".jj") = true

instance (d : Disk) (dir : String) : Decidable (d.HoldsRepository dir) :=
  inferInstanceAs (Decidable (_ ∨ _))

theorem hasRepository_load_iff {d : Disk} {dir : String} :
    (Frame.load d dir).hasRepository = true ↔ d.HoldsRepository dir := by
  rw [HoldsRepository, ← Bool.or_eq_true]
  rfl

/-- A directory holds a repository that is the one the names `ms` lead to from the root, or lies on
the way there, or above the root. -/
def IsInRepository (d : Disk) (root : String) (place : Place) (ms : List String) : Prop :=
  (∃ is, is <+: ms ∧ d.HoldsRepository (is.foldl Path.join root)) ∨
    ∃ k < place.length, d.HoldsRepository (Ignore.pathOf (place.take k))

/-- No ignore file of the directory at `dir` keeps anything in. -/
def KeepsNothing (d : Disk) (dir : String) : Prop := (Frame.load d dir).KeepsNothing

instance (d : Disk) (dir : String) : Decidable (d.KeepsNothing dir) :=
  inferInstanceAs (Decidable (Frame.load d dir).KeepsNothing)

/-- The lines of the `.gitignore` in the directory that `ms` leads to count for the entries of the
directory that `ks` leads to from there: the first is in a repository, and from there on down to the
second no directory holds another one. -/
structure GitignoreCounts (d : Disk) (root : String) (place : Place) (ms ks : List String) :
    Prop where
  isIn : d.IsInRepository root place ms
  none_between : ∀ is, is ≠ [] → is <+: ks → ¬ d.HoldsRepository ((ms ++ is).foldl Path.join root)

/-! ## Judging an entry below a `.gitignore` -/

/-- What lies in front of one more name can be gone on from. -/
theorem exists_concat_isPrefix {is ms : List String} (h : is <+: ms) (n : String)
    (rest : List String) : ∃ x, is ++ [x] <+: ms ++ n :: rest := by
  obtain ⟨ts, rfl⟩ := h
  cases ts with
  | nil => exact ⟨n, rest, by simp⟩
  | cons t ts => exact ⟨t, ts ++ n :: rest, by simp⟩

/-- Names behind a path that is not empty do not make it so. -/
theorem foldl_join_ne_empty {root : String} (hroot : root ≠ "") {ns : List String}
    (hns : ∀ n ∈ ns, Path.IsName n) : ns.foldl Path.join root ≠ "" := by
  intro hempty
  rcases List.eq_nil_or_concat ns with rfl | ⟨ms, n, rfl⟩
  · exact hroot hempty
  · have hn := hns n (by simp)
    rw [List.concat_eq_append, List.foldl_append] at hempty
    have hlast := getLast?_segments_join (ms.foldl Path.join root) hn
    rw [show Path.join (ms.foldl Path.join root) n = "" from hempty, Path.segments_empty] at hlast
    exact hn.ne_empty (Option.some.inj hlast).symm

section

variable {d : Disk} {root : String} {place : Place} {node : Node}
  (hnode : node.IsRealizable) (hlookup : d.lookup root = .ok (place, node))

include hnode hlookup

/-- **A name on a line of a `.gitignore`** leaves out what has this name, where its lines count. -/
theorem leavesOut_of_named {ms ks rest : List String} {n : String}
    (hfile : LeadsToFile root node (ms ++ ks ++ n :: rest)) (hn : IsPlainName n)
    (hrule : Ignore.namedRule n ∈ (Frame.load d (ms.foldl Path.join root)).gitignore)
    (hkeep : d.EveryDirectory root d.KeepsNothing) (hcounts : d.GitignoreCounts root place ms ks)
    (isDir : Bool) :
    ((Scope.around d root place).within (Frame.load d) root (ms ++ ks)).leavesOut
      ((ms ++ ks ++ [n]).foldl Path.join root) n isDir = true := by
  obtain ⟨⟨content, modified, hget⟩, -⟩ := id hfile
  have hnames : ∀ m ∈ ms ++ ks ++ n :: rest, Path.IsName m := fun m hm ↦
    (hnode.isEntryName hget m hm).isName
  obtain ⟨nearer, above, hinits, hnearer, -⟩ := Scope.exists_inits_append ms ks
  set p := (ms ++ ks ++ [n]).foldl Path.join root with hp
  have hsplit : ((Scope.around d root place).within (Frame.load d) root (ms ++ ks)).views p = _ :=
    Scope.views_within rfl root p (ms ++ ks)
  have hviews := hsplit
  rw [hinits, List.map_append, List.map_cons, List.append_assoc, List.cons_append] at hviews
  have hjudge : ∀ user, judge
      (((Scope.around d root place).within (Frame.load d) root (ms ++ ks)).views p) user isDir =
        .leaveOut := by
    intro user
    refine judge_eq_leaveOut isDir hviews ?_ ?_ ?_ hrule ?_
    · -- there are directories on the way to the entry and above the root
      obtain ⟨hbelow, habove⟩ := hkeep place node hlookup
      rw [hsplit, List.forall_mem_append, List.forall_mem_map]
      refine ⟨fun is his ↦ ?_, Scope.forall_mem_outerViews_around.2 habove⟩
      rw [List.mem_reverse, List.mem_inits] at his
      obtain ⟨x, hx⟩ := exists_concat_isPrefix his n rest
      obtain ⟨entries, hdir⟩ := Node.exists_dir_of_isPrefix hget hx
      exact hbelow is entries hdir
    · rw [List.forall_mem_map]
      intro js hjs
      obtain ⟨is, hne, his, rfl⟩ := (hnearer js).1 hjs
      rw [Scope.viewAt, ← Bool.not_eq_true, hasRepository_load_iff]
      exact hcounts.none_between is hne his
    · rw [hsplit]
      rcases hcounts.isIn with ⟨is, his, hholds⟩ | ⟨k, hk, hholds⟩
      · refine ⟨Scope.viewAt (Frame.load d) root p is,
          List.mem_append_left _ (List.mem_map_of_mem ?_), hasRepository_load_iff.2 hholds⟩
        rw [List.mem_reverse, List.mem_inits]
        exact his.trans (List.prefix_append ms ks)
      · rw [Scope.outerViews_around]
        exact ⟨_, List.mem_append_right _ (List.mem_map_of_mem (List.mem_reverse.2
          (List.mem_range.2 hk))), hasRepository_load_iff.2 hholds⟩
    · have hdir : ms.foldl Path.join root ≠ "" := foldl_join_ne_empty
        (lookup_eq_ok_iff.1 hlookup).1.ne_empty fun m hm ↦ hnames m (by simp [hm])
      refine appliesTo_named hn ?_ isDir
      rw [hp, List.append_assoc, List.foldl_append]
      exact getLast?_segments_below hdir (fun k hk ↦ hnames k (by simp [hk])) (hnames n (by simp))
  rw [Scope.leavesOut, hjudge]

end

/-! ## Without a `.gitignore` -/

/-- The ignore files of directories, without the `.gitignore` of the one at `dir`. -/
def withoutGitignore (load : String → Frame) (dir path : String) : Frame :=
  if path = dir then { load path with gitignore := [] } else load path

section

variable {load : String → Frame} {root : String} {ms : List String}
  (hms : ∀ m ∈ ms, Path.IsName m) (p : String)

include hms

/-- Other names lead to other directories, whose ignore files are the same. -/
theorem map_viewAt_withoutGitignore {dirs : List (List String)}
    (hdirs : ∀ is ∈ dirs, (∀ i ∈ is, Path.IsName i) ∧ is ≠ ms) :
    dirs.map (Scope.viewAt (withoutGitignore load (ms.foldl Path.join root)) root p) =
      dirs.map (Scope.viewAt load root p) := by
  refine List.map_congr_left fun is his ↦ ?_
  obtain ⟨hnames, hne⟩ := hdirs is his
  have hpath : is.foldl Path.join root ≠ ms.foldl Path.join root := fun heq ↦
    hne (foldl_join_injective hnames hms heq)
  rw [Scope.viewAt, Scope.viewAt, withoutGitignore, if_neg hpath]

/-- The directories around an entry below the one without its `.gitignore`: those that are nearer,
this one, and those above it. -/
theorem exists_views_withoutGitignore {s : Scope} (hs : s.inner = []) {ks : List String}
    (hks : ∀ k ∈ ks, Path.IsName k) : ∃ nearer above : List (List String),
      (s.within load root (ms ++ ks)).views p =
        nearer.map (Scope.viewAt load root p) ++ Scope.viewAt load root p ms ::
          (above.map (Scope.viewAt load root p) ++ s.outerViews p) ∧
      (s.within (withoutGitignore load (ms.foldl Path.join root)) root (ms ++ ks)).views p =
        nearer.map (Scope.viewAt load root p) ++
          ({ load (ms.foldl Path.join root) with gitignore := [] },
            below (ms.foldl Path.join root) (dropHere p)) ::
          (above.map (Scope.viewAt load root p) ++ s.outerViews p) ∧
      (∀ js, js ∈ nearer ↔ ∃ is, is ≠ [] ∧ is <+: ks ∧ js = ms ++ is) ∧
      ∀ is ∈ above, is <+: ms := by
  obtain ⟨nearer, above, hinits, hnearer, habove⟩ := Scope.exists_inits_append ms ks
  have hnames : ∀ is, is <+: ms ++ ks → ∀ i ∈ is, Path.IsName i := fun is his i hi ↦
    (List.forall_mem_append.2 ⟨hms, hks⟩) i (his.subset hi)
  have hnearer' : ∀ is ∈ nearer, (∀ i ∈ is, Path.IsName i) ∧ is ≠ ms := by
    intro is his
    obtain ⟨ls, hne, hls, rfl⟩ := (hnearer is).1 his
    exact ⟨hnames _ ((List.prefix_append_right_inj ms).2 hls), by simpa using hne⟩
  have habove' : ∀ is ∈ above, (∀ i ∈ is, Path.IsName i) ∧ is ≠ ms := by
    intro is his
    obtain ⟨hfront, hne⟩ := habove is his
    exact ⟨hnames is (hfront.trans (List.prefix_append ms ks)), hne⟩
  refine ⟨nearer, above, ?_, ?_, hnearer, fun is his ↦ (habove is his).1⟩
  · rw [Scope.views_within hs, hinits, List.map_append, List.map_cons, List.append_assoc,
      List.cons_append]
  · rw [Scope.views_within hs, hinits, List.map_append, List.map_cons, List.append_assoc,
      List.cons_append, map_viewAt_withoutGitignore hms p hnearer',
      map_viewAt_withoutGitignore hms p habove', Scope.viewAt, withoutGitignore, if_pos rfl]

end

section

variable {d : Disk} {root : String} {place : Place} {ms : List String}
  (hms : ∀ m ∈ ms, Path.IsName m)

include hms

/-- **Where the lines of a `.gitignore` do not count**, an entry is judged as without them. -/
theorem judge_withoutGitignore {ks : List String} (hks : ∀ k ∈ ks, Path.IsName k)
    (hno : ¬ d.GitignoreCounts root place ms ks) (p : String) (user : Verdict) (isDir : Bool) :
    judge (((Scope.around d root place).within
      (withoutGitignore (Frame.load d) (ms.foldl Path.join root)) root (ms ++ ks)).views p) user
        isDir =
      judge (((Scope.around d root place).within (Frame.load d) root (ms ++ ks)).views p) user
        isDir := by
  obtain ⟨nearer, above, hviews, hviews', hnearer, habove⟩ := @exists_views_withoutGitignore
    (Frame.load d) root ms hms p (Scope.around d root place) rfl ks hks
  rw [hviews, hviews']
  refine judge_append_congr isDir ?_ rfl
  by_cases hbetween :
      ∃ is, is ≠ [] ∧ is <+: ks ∧ d.HoldsRepository ((ms ++ is).foldl Path.join root)
  · obtain ⟨is, hne, his, hholds⟩ := hbetween
    exact .inl ⟨Scope.viewAt (Frame.load d) root p (ms ++ is),
      List.mem_map_of_mem ((hnearer _).2 ⟨is, hne, his, rfl⟩), hasRepository_load_iff.2 hholds⟩
  · -- then the directory is in no repository
    have hout : ¬ d.IsInRepository root place ms := fun hin ↦
      hno ⟨hin, fun is hne his hholds ↦ hbetween ⟨is, hne, his, hholds⟩⟩
    have hnone : ∀ is, is <+: ms →
        (Frame.load d (is.foldl Path.join root)).hasRepository = false := by
      intro is his
      rw [← Bool.not_eq_true, hasRepository_load_iff]
      exact fun hholds ↦ hout (.inl ⟨is, his, hholds⟩)
    have houter : ∀ v ∈ (Scope.around d root place).outerViews p, v.1.hasRepository = false := by
      rw [Scope.forall_mem_outerViews_around (P := fun f ↦ f.hasRepository = false)]
      intro k hk
      rw [← Bool.not_eq_true, hasRepository_load_iff]
      exact fun hholds ↦ hout (.inr ⟨k, hk, hholds⟩)
    have hbehind : ∀ v ∈ above.map (Scope.viewAt (Frame.load d) root p) ++
        (Scope.around d root place).outerViews p, v.1.hasRepository = false := by
      rw [List.forall_mem_append, List.forall_mem_map]
      exact ⟨fun is his ↦ hnone is (habove is his), houter⟩
    have hhere := hnone ms (List.prefix_refl ms)
    exact .inr ⟨List.forall_mem_cons.2 ⟨hhere, hbehind⟩, List.forall_mem_cons.2 ⟨hhere, hbehind⟩⟩

/-- So it is left out, or not, as without them. -/
theorem leavesOut_withoutGitignore {ks : List String} (hks : ∀ k ∈ ks, Path.IsName k)
    (hno : ¬ d.GitignoreCounts root place ms ks) (p name : String) (isDir : Bool) :
    ((Scope.around d root place).within
      (withoutGitignore (Frame.load d) (ms.foldl Path.join root)) root (ms ++ ks)).leavesOut p name
        isDir =
      ((Scope.around d root place).within (Frame.load d) root (ms ++ ks)).leavesOut p name isDir :=
  Scope.leavesOut_congr (by rw [Scope.userVerdict_within, Scope.userVerdict_within]) fun user ↦
    judge_withoutGitignore hms hks hno p user isDir

/-- **A `.gitignore` in no repository has no say**: the same names are kept without it. -/
theorem isWalked_withoutGitignore_iff (hno : ¬ d.IsInRepository root place ms) {ns : List String}
    (hns : ∀ n ∈ ns, Path.IsName n) :
    IsWalked (withoutGitignore (Frame.load d) (ms.foldl Path.join root)) (Scope.around d root place)
      root ns ↔ IsWalked (Frame.load d) (Scope.around d root place) root ns := by
  refine forall_congr' fun js ↦ forall_congr' fun m ↦ forall_congr' fun rest ↦
    forall_congr' fun heq ↦ ?_
  have hjs : ∀ j ∈ js, Path.IsName j := fun j hj ↦ hns j (by simp [heq, hj])
  refine and_congr_right fun _ ↦ ?_
  by_cases hbelow : ms <+: js
  · obtain ⟨ks, rfl⟩ := hbelow
    rw [leavesOut_withoutGitignore hms (fun k hk ↦ hjs k (List.mem_append_right _ hk))
      fun hcounts ↦ hno hcounts.isIn]
  · have hsame : ∀ is ∈ js.inits.reverse, (∀ i ∈ is, Path.IsName i) ∧ is ≠ ms := by
      intro is his
      rw [List.mem_reverse, List.mem_inits] at his
      exact ⟨fun i hi ↦ hjs i (his.subset hi), fun heq ↦ hbelow (heq ▸ his)⟩
    rw [Scope.leavesOut, Scope.leavesOut, Scope.views_within rfl, Scope.views_within rfl,
      map_viewAt_withoutGitignore hms _ hsame, Scope.userVerdict_within, Scope.userVerdict_within]

end

end Disk

namespace Workbench

open Disk Ignore

section

variable {σ : Type} [Traced σ] [OnDisk σ] {root : String} {logger : Logger σ} {s : σ}

/-- The files of a project are read off what is found under its root, where that is texts. -/
theorem mem_fileNames_iff_of_filesUnder {found : List String}
    (h : ((OnDisk.disk s).filesUnder root).toOption.map Listing.files = some found)
    (htext : ∀ p ∈ found, Path.IsText p) {f : String} :
    f ∈ ((directoryProject root logger).fileNames s).1 ↔ f ∈ found ∧ isProjectFile f = true := by
  have hfiles : ((directoryProject root logger).fileNames s).1 = projectFiles found :=
    listFiles_of_files h
  rw [hfiles, mem_projectFiles, ← List.mem_map, Path.map_shown_of_isText htext]

variable (hs : (OnDisk.disk s).root.IsRealizable) {place : Place} {node : Node}
  (hlookup : (OnDisk.disk s).lookup root = .ok (place, node))

include hs hlookup

/-- **The files of a project** are those that names lead to which are kept, unless the root is
spelt as the standard input is. -/
theorem mem_fileNames_iff {f : String} : f ∈ ((directoryProject root logger).fileNames s).1 ↔
    isStandardInput root = false ∧ isProjectFile f = true ∧ ∃ ns, LeadsToFile root node ns ∧
      IsWalked (Frame.load (OnDisk.disk s)) (Scope.around (OnDisk.disk s) root place) root ns ∧
      f = Path.shown (ns.foldl Path.join root) := by
  obtain ⟨listing, hlisting⟩ := exists_filesUnder hlookup
  have hfiles : ((directoryProject root logger).fileNames s).1 = projectFiles listing.files :=
    listFiles_of_ok hlisting
  rw [hfiles, mem_projectFiles]
  cases hroot : isStandardInput root with
  | true => simp [not_mem_files_of_isStandardInput hlisting hroot]
  | false =>
    simp only [mem_files_iff_isWalked hs hlisting hroot hlookup, true_and]
    rw [and_comm]
    refine and_congr_right fun _ ↦ ⟨?_, ?_⟩
    · rintro ⟨p, ⟨ns, hfile, hns, rfl⟩, rfl⟩
      exact ⟨ns, hfile, hns, rfl⟩
    · rintro ⟨ns, hfile, hns, rfl⟩
      exact ⟨_, ⟨ns, hfile, hns, rfl⟩, rfl⟩

/-- **When the lines of a `.gitignore` count.**  What has a plain name that stands on one of them is
no file of the project below the directory of the `.gitignore`, in a tree without negated patterns,
if the directory is in a repository and no other one lies between.  Every file of the project comes
from names of which this holds, and where all names are texts they are those in its path.  Where
the lines do not count an entry is left out, or not, as it is without the `.gitignore`; so in no
repository the project has the files that it has without it. -/
theorem fileNames_gitignore {ms : List String} {entries : List (String × Node)}
    (hdir : node.get? ms = some (.dir entries)) {content : ByteArray}
    (hread : (OnDisk.disk s).fetch (Path.join (ms.foldl Path.join root) ".gitignore") =
      .ok content) :
    let d := OnDisk.disk s
    let files := ((directoryProject root logger).fileNames s).1
    (d.EveryDirectory root d.KeepsNothing → ∀ n, IsPlainName n → IsLineOf n content →
      (∀ f ∈ files, ∃ ns, LeadsToFile root node ns ∧
        f = (ns.map Path.shown).foldl Path.join root ∧
        ∀ ks rest, ns = ms ++ (ks ++ n :: rest) → ¬ d.GitignoreCounts root place ms ks) ∧
      (d.HasTextNames root → ∀ f ∈ files, ∀ ks rest, Path.moves f =
        Path.moves (ms.foldl Path.join root) ++ (ks ++ n :: rest).map .name →
      ¬ d.GitignoreCounts root place ms ks)) ∧
    (∀ ks, (∀ k ∈ ks, Path.IsName k) → ¬ d.GitignoreCounts root place ms ks → ∀ p name isDir,
      ((Scope.around d root place).within
        (withoutGitignore (Frame.load d) (ms.foldl Path.join root)) root (ms ++ ks)).leavesOut p
          name isDir =
        ((Scope.around d root place).within (Frame.load d) root (ms ++ ks)).leavesOut p name
          isDir) ∧
    (¬ d.IsInRepository root place ms → Path.components root ≠ [.name "-"] → ∀ f, f ∈ files ↔
      isProjectFile f = true ∧ ∃ p, Path.shown p = f ∧
        .file p ∈ walk (withoutGitignore (Frame.load d) (ms.foldl Path.join root))
          (Scope.around d root place) root node) := by
  intro d files
  have hnode := hs.get? (get?_of_lookup hlookup)
  have hnames : ∀ {ns}, LeadsToFile root node ns → ∀ n ∈ ns, IsEntryName n := by
    rintro ns ⟨⟨content', modified, hget⟩, -⟩
    exact hnode.isEntryName hget
  have hms : ∀ m ∈ ms, Path.IsName m := fun m hm ↦ (hnode.isEntryName hdir m hm).isName
  refine ⟨fun hkeep n hn hline ↦ ?_, fun ks hks hno ↦ leavesOut_withoutGitignore hms hks hno, ?_⟩
  · have hrule : namedRule n ∈ (Frame.load d (ms.foldl Path.join root)).gitignore := by
      have hload : (Frame.load d (ms.foldl Path.join root)).gitignore =
          (File.load d (Path.join (ms.foldl Path.join root) ".gitignore")).rules := rfl
      rw [hload, File.load, hread]
      exact hn.mem_rules hline
    have hway : ∀ f ∈ files, ∃ ns, LeadsToFile root node ns ∧
        f = (ns.map Path.shown).foldl Path.join root ∧
        ∀ ks rest, ns = ms ++ (ks ++ n :: rest) → ¬ d.GitignoreCounts root place ms ks := by
      intro f hf
      obtain ⟨-, -, ns, hfile, hns, rfl⟩ := (mem_fileNames_iff hs hlookup).1 hf
      refine ⟨ns, hfile, ?_, fun ks rest heq hcounts ↦ ?_⟩
      · rw [Path.shown_foldl_join fun n hn ↦ (hnames hfile n hn).isName,
          Path.shown_of_isText (lookup_eq_ok_iff_seek.1 hlookup).1]
      · rw [← List.append_assoc] at heq
        subst heq
        have hout := leavesOut_of_named hnode hlookup hfile hn hrule hkeep hcounts (!rest.isEmpty)
        rw [(hns (ms ++ ks) n rest rfl).2] at hout
        cases hout
    refine ⟨hway, fun htext f hf ks rest hmoves ↦ ?_⟩
    obtain ⟨ns, hfile, rfl, hcounts⟩ := hway f hf
    refine hcounts ks rest ?_
    -- the path of the file spells the names that lead to it
    obtain ⟨⟨content', modified, hget⟩, -⟩ := id hfile
    have htexts : ∀ m ∈ ns, Path.IsText m := fun m hm ↦
      of_decide_eq_true (Node.test_of_everyName (htext place node hlookup) hget m hm)
    rw [Path.map_shown_of_isText htexts,
      moves_foldl_join_names fun m hm ↦ (hnames hfile m hm).isName,
      moves_foldl_join_names hms, List.append_assoc, List.append_cancel_left_eq,
      ← List.map_append] at hmoves
    exact (List.map_inj_right fun _ _ ↦ Path.Component.name.inj).1 hmoves
  · intro hno hroot f
    have hstart : isStandardInput root = false := decide_eq_false hroot
    rw [mem_fileNames_iff hs hlookup, hstart, eq_self, true_and]
    refine and_congr_right fun _ ↦ ?_
    simp only [mem_walk_iff hnode]
    constructor
    · rintro ⟨ns, hfile, hns, rfl⟩
      exact ⟨_, rfl, ns, hfile, (isWalked_withoutGitignore_iff hms hno fun n hn ↦
        (hnames hfile n hn).isName).2 hns, rfl⟩
    · rintro ⟨p, rfl, ns, hfile, hns, rfl⟩
      exact ⟨ns, hfile, (isWalked_withoutGitignore_iff hms hno fun n hn ↦
        (hnames hfile n hn).isName).1 hns, rfl⟩

end

/-- A repository with a `.gitignore` that names a directory further below. -/
def repositoryEntries : List (String × Node) :=
  [(".git", .dir []), (".gitignore", .file "gen\n".toUTF8 0), ("b.ts", .file .empty 0),
    ("src", .dir [("gen", .dir [("a.ts", .file .empty 0)])])]

/-- A disk with that repository. -/
def repositoryDisk : Disk := workDisk [("p", .dir repositoryEntries)]

theorem lookup_repository : repositoryDisk.lookup "p" =
    .ok (["tmp", "tz000000", "p"], .dir repositoryEntries) := rfl

theorem lookup_repository_gitignore : repositoryDisk.lookup "p/.gitignore" =
    .ok (["tmp", "tz000000", "p", ".gitignore"], .file "gen\n".toUTF8 0) := rfl

/-- The files of the directory that is named are no files of the project. -/
theorem fileNames_gitignore_of_repository :
    let d := repositoryDisk
    let files := ((directoryProject "p" .diagnostics).fileNames ({ disk := d } : Cli.Console)).1
    d.GitignoreCounts "p" ["tmp", "tz000000", "p"] [] ["src"] ∧ "p/src/gen/a.ts" ∉ files := by
  intro d files
  have hrealizable : d.root.IsRealizable := by decide
  have hkeep : d.EveryDirectory "p" d.KeepsNothing :=
    everyDirectory_of_lookup lookup_repository (by decide +kernel) (by decide +kernel)
  have hcounts : d.GitignoreCounts "p" ["tmp", "tz000000", "p"] [] ["src"] := by
    refine ⟨.inl ⟨[], List.nil_prefix, by decide +kernel⟩, fun is hne his ↦ ?_⟩
    obtain rfl : is = ["src"] := by
      rcases List.prefix_cons_iff.1 his with rfl | ⟨ts, rfl, hts⟩
      · exact absurd rfl hne
      · rw [List.prefix_nil.1 hts]
    decide +kernel
  have hread : d.fetch (Path.join "p" ".gitignore") = .ok "gen\n".toUTF8 :=
    fetch_of_seek (seek_of_lookup lookup_repository_gitignore)
  have htext : d.HasTextNames "p" := hasTextNames_of_lookup lookup_repository (by decide +kernel)
  have hspec := (@fileNames_gitignore Cli.Console _ _ "p" .diagnostics { disk := d } hrealizable _ _
    lookup_repository [] _ rfl _ hread).1 hkeep "gen" (by decide) (by decide +kernel)
  exact ⟨hcounts, fun hmem ↦ hspec.2 htext _ hmem ["src"] ["a.ts"] (by decide) hcounts⟩

/-- A directory with a `.gitignore`, in no repository. -/
def looseEntries : List (String × Node) :=
  [(".gitignore", .file "gen\n".toUTF8 0), ("b.ts", .file .empty 0),
    ("gen", .dir [("a.ts", .file .empty 0)])]

/-- A disk with that directory. -/
def looseDisk : Disk := workDisk [("p", .dir looseEntries)]

theorem lookup_loose : looseDisk.lookup "p" = .ok (["tmp", "tz000000", "p"], .dir looseEntries) :=
  rfl

/-- **In no repository a file is listed though its directory is named.** -/
theorem fileNames_gitignore_without_repository :
    let d := looseDisk
    let files := ((directoryProject "p" .diagnostics).fileNames ({ disk := d } : Cli.Console)).1
    d.root.IsRealizable ∧ d.EveryDirectory "p" d.KeepsNothing ∧
      (∃ content, d.read "p/.gitignore" = .ok content ∧ IsLineOf "gen" content) ∧
      IsPlainName "gen" ∧ "p/gen/a.ts" ∈ files := by
  intro d files
  have hgitignore : looseDisk.lookup "p/.gitignore" =
      .ok (["tmp", "tz000000", "p", ".gitignore"], .file "gen\n".toUTF8 0) := rfl
  have hlisted : ((OnDisk.disk ({ disk := looseDisk } : Cli.Console)).filesUnder
      "p").toOption.map Listing.files = some ["p/b.ts", "p/gen/a.ts"] := by decide +kernel
  have hfile : "p/gen/a.ts" ∈ files :=
    (mem_fileNames_iff_of_filesUnder hlisted (by decide)).2 ⟨by simp, by decide⟩
  refine ⟨?_, everyDirectory_of_lookup lookup_loose (by decide +kernel) (by decide +kernel),
    ⟨"gen\n".toUTF8, read_of_lookup hgitignore, by decide +kernel⟩, by decide, hfile⟩
  decide

end Workbench

end HostOverlay
