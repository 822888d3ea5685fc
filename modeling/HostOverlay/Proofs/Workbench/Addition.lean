import HostOverlay.Proofs.Disk.Redaction
import HostOverlay.Proofs.Ignore.Loading
import HostOverlay.Proofs.Workbench.Ignoring
import Mathlib.Data.List.Sort

/-!
# What a new `.ignore` file keeps out of a project

A `.ignore` file that keeps nothing in takes files away from the directory that it is added to, and
does nothing else.  Where a link leads to the new file this is not so: the link is then the
`.ignore` file of another directory, or the repository that another directory holds.

* `IsWalked.of_gains`: with a gain everywhere, what is kept was kept.
* `isWalked_iff_of_same`: with the same rules around it, the same is kept.
* `fileNames_addition`: the files of a project, before and after.
* `fileNames_addition_with_link`: what a link can do.
-/

set_option autoImplicit false

namespace HostOverlay

namespace Disk

open Ignore

section

variable {d d' : Disk} {root : String} {place : Place}

/-! ## The same names in two trees -/

/-- The directories around an entry, side by side. -/
theorem forall₂_views {R : Frame → Frame → Prop} {js : List String}
    (hinner : ∀ is, is <+: js →
      R (Frame.load d (is.foldl Path.join root)) (Frame.load d' (is.foldl Path.join root)))
    (houter : ∀ k < place.length,
      R (Frame.load d (pathOf (place.take k))) (Frame.load d' (pathOf (place.take k))))
    (p : String) :
    List.Forall₂ (fun v v' ↦ R v.1 v'.1 ∧ v'.2 = v.2)
      (((Scope.around d root place).within (Frame.load d) root js).views p)
      (((Scope.around d' root place).within (Frame.load d') root js).views p) := by
  have habsolute : ∀ q, (Scope.around d' root place).absolute q =
      (Scope.around d root place).absolute q := by
    intro q
    have hstart : (Scope.around d' root place).start = (Scope.around d root place).start := rfl
    have hbase : (Scope.around d' root place).base = (Scope.around d root place).base := rfl
    rw [Scope.absolute, Scope.absolute, hstart, hbase]
  rw [Scope.views_within rfl, Scope.views_within rfl, Scope.outerViews_around,
    Scope.outerViews_around, habsolute]
  refine List.rel_append ?_ ?_
  · simp only [List.forall₂_map_left_iff, List.forall₂_map_right_iff, List.forall₂_same,
      List.mem_reverse, List.mem_inits, Scope.viewAt]
    exact fun is his ↦ ⟨hinner is his, trivial⟩
  · simp only [List.forall₂_map_left_iff, List.forall₂_map_right_iff, List.forall₂_same,
      List.mem_reverse, List.mem_range]
    exact fun k hk ↦ ⟨houter k hk, trivial⟩

/-- The excludes of the user say the same beside a new file. -/
theorem IsAddition.userVerdict_around {q : Place} {new : Node} (h : d.IsAddition q new d')
    (p : String) (isDir : Bool) : (Scope.around d' root place).userVerdict p isDir =
      (Scope.around d root place).userVerdict p isDir := by
  rw [Scope.userVerdict, Scope.userVerdict, Scope.around, Scope.around, Ignore.userRules,
    Ignore.userRules, h.userExcludes, h.workingDirectory]

section

variable (huser : ∀ p isDir, (Scope.around d' root place).userVerdict p isDir =
  (Scope.around d root place).userVerdict p isDir)

include huser

/-- **With a gain everywhere, what is kept was kept.** -/
theorem IsWalked.of_gains (hgains : ∀ dir, (Frame.load d dir).Gains (Frame.load d' dir))
    {ns : List String} (h : IsWalked (Frame.load d') (Scope.around d' root place) root ns) :
    IsWalked (Frame.load d) (Scope.around d root place) root ns := by
  intro ms n rest heq
  obtain ⟨hskip, hkept⟩ := h ms n rest heq
  refine ⟨hskip, Scope.leavesOut_mono ?_ (fun user ↦ judge_mono _ ?_) hkept⟩
  · rw [Scope.userVerdict_within, Scope.userVerdict_within, huser]
  · exact forall₂_views (fun is _ ↦ hgains _) (fun k _ ↦ hgains _) _

/-- **With the same rules around it, the same is kept.** -/
theorem isWalked_iff_of_same {ns : List String}
    (hinner : ∀ is n, is ++ [n] <+: ns →
      (Frame.load d (is.foldl Path.join root)).IsSame (Frame.load d' (is.foldl Path.join root)))
    (houter : ∀ k < place.length,
      (Frame.load d (pathOf (place.take k))).IsSame (Frame.load d' (pathOf (place.take k)))) :
    IsWalked (Frame.load d') (Scope.around d' root place) root ns ↔
      IsWalked (Frame.load d) (Scope.around d root place) root ns := by
  refine forall_congr' fun ms ↦ forall_congr' fun n ↦ forall_congr' fun rest ↦
    forall_congr' fun heq ↦ ?_
  have hnear : ∀ is, is <+: ms → (Frame.load d (is.foldl Path.join root)).IsSame
      (Frame.load d' (is.foldl Path.join root)) := by
    intro is his
    obtain ⟨x, hx⟩ := exists_concat_isPrefix his n rest
    exact hinner is x (heq ▸ hx)
  have hleavesOut : ∀ path name isDir,
      ((Scope.around d' root place).within (Frame.load d') root ms).leavesOut path name isDir =
        ((Scope.around d root place).within (Frame.load d) root ms).leavesOut path name isDir :=
    fun path name isDir ↦ Scope.leavesOut_congr
      (by rw [Scope.userVerdict_within, Scope.userVerdict_within, huser])
      fun user ↦ judge_congr _ (forall₂_views hnear houter path)
  rw [hleavesOut]

end

/-! ## Where paths of directories lead -/

/-- Different names lead to different directories. -/
theorem seek_foldl_join_ne {node : Node} (hnode : node.IsRealizable)
    (hseek : d.seek root = .ok (place, node)) {is ms : List String}
    {entries : List (String × Node)} (hdir : node.get? is = some (.dir entries)) (hne : is ≠ ms)
    (found : Node) : d.seek (is.foldl Path.join root) ≠ .ok (place ++ ms, found) := by
  intro hcontra
  have hsize := (seek_eq_ok_iff.1 hcontra).1.size_le
  rw [seek_foldl_join hseek hnode hdir (by simp) hsize] at hcontra
  exact hne (List.append_cancel_left (Prod.mk.inj (Except.ok.inj hcontra)).1)

/-- The path of a place leads to it and nowhere else. -/
theorem eq_of_seek_pathOf {p q : Place} (hp : ∀ n ∈ p, Path.IsName n)
    {entries : List (String × Node)} (hdir : d.root.get? p = some (.dir entries)) {found : Node}
    (h : d.seek (pathOf p) = .ok (q, found)) : q = p := by
  have hstart : d.startOf (pathOf p) = [] := if_pos (Path.isAbsolute_root_append _)
  obtain ⟨-, hleads⟩ := seek_eq_ok_iff_leads.1 h
  rw [hstart, pathOf, Path.segments_root_append] at hleads
  have hnext := hleads.of_stay rfl
  by_cases hempty : p = []
  · subst hempty
    have hsegments : Path.segments (Path.joinSegments []) = [""] := by decide
    rw [hsegments] at hnext
    exact (hnext.of_stay rfl).eq_append_of_names (by simp) hdir
  · rw [Path.segments_joinSegments hempty fun n hn ↦ (hp n hn).no_slash] at hnext
    exact hnext.eq_append_of_names hp hdir

/-- **Beside a new `.ignore` the same is kept**, but for what lies below its directory. -/
theorem isWalked_iff_of_not_below {ms : List String} {new node' : Node}
    (h : d.IsAddition (place ++ ms ++ [".ignore"]) new d')
    (hlinks : HasNoLinkTo d'.root (place ++ ms ++ [".ignore"])) (hd' : d'.root.IsRealizable)
    (hseek' : d'.seek root = .ok (place, node')) {ns : List String} {found : Node}
    (hget : node'.get? ns = some found) (hbelow : ∀ n rest, ns ≠ ms ++ n :: rest) :
    IsWalked (Frame.load d') (Scope.around d' root place) root ns ↔
      IsWalked (Frame.load d) (Scope.around d root place) root ns := by
  have hplace := get?_of_seek hseek'
  have hnode' := hd'.get? hplace
  refine isWalked_iff_of_same h.userVerdict_around (fun is n his ↦ ?_) fun k hk ↦ ?_
  · obtain ⟨es, hdir⟩ := Node.exists_dir_of_isPrefix hget his
    have hne : is ≠ ms := by
      rintro rfl
      obtain ⟨rest, rfl⟩ := his
      exact hbelow n rest (by rw [List.append_assoc]; rfl)
    have hpath : is.foldl Path.join root ≠ "" := foldl_join_ne_empty
      (seek_eq_ok_iff.1 hseek').1.ne_empty fun m hm ↦ (hnode'.isEntryName hdir m hm).isName
    exact ⟨agrees_load h hlinks _, ignore_load_eq h hlinks hpath fun _ ↦
      seek_foldl_join_ne hnode' hseek' hdir hne _⟩
  · have hfront : place.take k ++ [place[k]] <+: place := by
      rw [List.take_append_getElem]
      exact List.take_prefix _ _
    obtain ⟨es, hdir⟩ := Node.exists_dir_of_isPrefix hplace hfront
    have hpath : pathOf (place.take k) ≠ "" := by
      rw [pathOf, Ne, String.append_eq_empty_iff]
      simp
    refine ⟨agrees_load h hlinks _, ignore_load_eq h hlinks hpath fun es' hcontra ↦ ?_⟩
    have heq := congrArg List.length (eq_of_seek_pathOf
      (fun n hn ↦ (hd'.isEntryName hdir n hn).isName) hdir hcontra)
    rw [List.length_append, List.length_take] at heq
    omega

/-- Where there is no link, none leads anywhere. -/
theorem hasNoLinkTo_of_isLinkFree {node : Node} (h : node.IsLinkFree) (q : Place) :
    HasNoLinkTo node q := fun _ _ _ hget ↦ nomatch h.get? hget

/-! ## Files in two trees -/

/-- What leads to a file leads to one still, and to a new one only where it was put. -/
theorem IsAddition.leadsToFile_iff {q : Place} {new node node' : Node}
    (h : d.IsAddition q new d') (hget : d.root.get? place = some node)
    (hget' : d'.root.get? place = some node') {ns : List String} (hns : place ++ ns ≠ q) :
    LeadsToFile root node' ns ↔ LeadsToFile root node ns := by
  have hother := h.isPut.get_other _ hns
  rw [Node.get?_append, hget', Option.bind_some, Node.get?_append, hget, Option.bind_some] at hother
  have hfile : (∃ content modified, node'.get? ns = some (.file content modified)) ↔
      ∃ content modified, node.get? ns = some (.file content modified) := by
    refine exists_congr fun content ↦ exists_congr fun modified ↦ ?_
    rw [← Node.map_shallow_eq_file_iff, hother, Node.map_shallow_eq_file_iff]
  exact ⟨fun hn ↦ ⟨hfile.1 hn.isFile, hn.size_le⟩, fun hn ↦ ⟨hfile.2 hn.isFile, hn.size_le⟩⟩

end

end Disk

namespace Workbench

open Disk Ignore

/-- The path is that of a directory with names joined to it. -/
def LiesBelow (dir f : String) : Prop :=
  ∃ ns : List String, ns ≠ [] ∧ (∀ n ∈ ns, Path.IsName n) ∧ f = ns.foldl Path.join dir

/-- What lies below is shown below. -/
theorem LiesBelow.shown {dir p : String} (h : LiesBelow dir p) :
    LiesBelow (Path.shown dir) (Path.shown p) := by
  obtain ⟨ns, hne, hns, rfl⟩ := h
  refine ⟨ns.map Path.shown, by simpa using hne, fun m hm ↦ ?_, Path.shown_foldl_join hns dir⟩
  obtain ⟨n, hn, rfl⟩ := List.mem_map.1 hm
  exact (hns n hn).shown

theorem LiesBelow.moves_isPrefix {dir f : String} (h : LiesBelow dir f) :
    Path.moves dir <+: Path.moves f := by
  obtain ⟨ns, -, hns, rfl⟩ := h
  rw [moves_foldl_join_names hns]
  exact List.prefix_append _ _

/-- A `.ignore` file is no file of a project. -/
theorem isProjectFile_ignore (dir : String) :
    isProjectFile (Path.join dir ".ignore") = false := by
  rw [← Bool.not_eq_true, isProjectFile_iff]
  rintro ⟨ending, hmem, hends⟩
  have hall : ∀ e ∈ projectEndings, '/' ∉ e.toList ∧ endsIn ".ignore" e = false := by decide
  rw [Path.endsIn_of_getLast? (Disk.getLast?_segments_join dir (by decide)) (hall ending hmem).1,
    (hall ending hmem).2] at hends
  cases hends

/-! ## How often a file is listed -/

/-- A file is listed as often as there are files that are shown as it is. -/
theorem count_projectFiles (found : List String) (f : String) : (projectFiles found).count f =
    (found.filter fun p ↦ Path.shown p == f && isProjectFile (Path.shown p)).length := by
  rw [projectFiles, sorted, (List.mergeSort_perm _ _).count_eq, List.count, List.countP_filter,
    List.countP_map, List.countP_eq_length_filter]
  rfl

/-- With fewer files, a file is listed less often. -/
theorem count_projectFiles_le {found found' : List String} (hnodup : found'.Nodup) {f : String}
    (h : ∀ p ∈ found', Path.shown p = f → isProjectFile f = true → p ∈ found) :
    (projectFiles found').count f ≤ (projectFiles found).count f := by
  rw [count_projectFiles, count_projectFiles]
  refine (List.subperm_of_subset (hnodup.filter _) fun p hp ↦ ?_).length_le
  simp only [List.mem_filter, Bool.and_eq_true, beq_iff_eq] at hp ⊢
  obtain ⟨hp, rfl, hproject⟩ := hp
  exact ⟨h p hp rfl hproject, rfl, hproject⟩

/-- What is listed no more often is listed in the same order. -/
theorem sublist_of_count_le {found found' : List String}
    (h : ∀ f, (projectFiles found').count f ≤ (projectFiles found).count f) :
    (projectFiles found').Sublist (projectFiles found) :=
  List.sublist_of_subperm_of_pairwise (r := (· ≤ ·)) (List.subperm_ext_iff.2 fun f _ ↦ h f)
    (pairwise_le_sorted _) (pairwise_le_sorted _)

/-! ## Files of a project in two trees -/

/-- Names lead to a file of a project as before, since the new file is none. -/
theorem leadsToFile_iff_of_isProjectFile {d d' : Disk} {root : String} {place : Place}
    {node node' new : Node} {ms : List String} (hlookup : d.lookup root = .ok (place, node))
    (hlookup' : d'.lookup root = .ok (place, node'))
    (hadd : d.IsAddition (place ++ ms ++ [".ignore"]) new d') {ns : List String}
    (hproject : isProjectFile (Path.shown (ns.foldl Path.join root)) = true) :
    LeadsToFile root node' ns ↔ LeadsToFile root node ns := by
  refine hadd.leadsToFile_iff (get?_of_lookup hlookup) (get?_of_lookup hlookup') fun heq ↦ ?_
  rw [List.append_assoc] at heq
  have hshown : Path.shown ".ignore" = ".ignore" := Path.shown_of_isText (by decide)
  rw [List.append_cancel_left heq, List.foldl_append, List.foldl_cons, List.foldl_nil,
    Path.shown_join _ (by decide), hshown, isProjectFile_ignore] at hproject
  cases hproject

section

variable {d d' : Disk} {root : String} (hd : d.root.IsRealizable) (hd' : d'.root.IsRealizable)
  {place : Place} {node node' : Node} {ms : List String} {new : Node}
  (hlookup : d.lookup root = .ok (place, node)) (hlookup' : d'.lookup root = .ok (place, node'))
  (hadd : d.IsAddition (place ++ ms ++ [".ignore"]) new d')
  (hlinks : HasNoLinkTo d'.root (place ++ ms ++ [".ignore"])) {listing listing' : Listing}
  (hlisting : d.filesUnder root = .ok listing) (hlisting' : d'.filesUnder root = .ok listing')
  {p : String} (hproject : isProjectFile (Path.shown p) = true)

include hd hd' hlookup hlookup' hadd hlinks hlisting hlisting' hproject

/-- A file is there after the addition only if it was before. -/
theorem mem_files_of_addition {content : ByteArray} {modified : Int}
    (hnew : new = .file content modified) (hkeep : KeepsNothing (File.ofContent content).rules)
    (hp : p ∈ listing'.files) : p ∈ listing.files := by
  cases hroot : isStandardInput root with
  | true => exact absurd hp (not_mem_files_of_isStandardInput hlisting' hroot p)
  | false =>
    obtain ⟨ns, hleads, hkept, rfl⟩ := (mem_files_iff_isWalked hd' hlisting' hroot hlookup').1 hp
    exact (mem_files_iff_isWalked hd hlisting hroot hlookup).2 ⟨ns,
      (leadsToFile_iff_of_isProjectFile hlookup hlookup' hadd hproject).1 hleads,
      hkept.of_gains hadd.userVerdict_around (gains_load hadd hlinks hnew hkeep), rfl⟩

/-- What does not lie below the directory of the new file is there as before. -/
theorem mem_files_iff_of_not_below (hbelow : ¬ LiesBelow (ms.foldl Path.join root) p) :
    p ∈ listing'.files ↔ p ∈ listing.files := by
  cases hroot : isStandardInput root with
  | true =>
    exact iff_of_false (not_mem_files_of_isStandardInput hlisting' hroot p)
      (not_mem_files_of_isStandardInput hlisting hroot p)
  | false =>
    rw [mem_files_iff_isWalked hd' hlisting' hroot hlookup',
      mem_files_iff_isWalked hd hlisting hroot hlookup]
    refine exists_congr fun ns ↦ ?_
    rw [← and_assoc, ← and_assoc]
    refine and_congr_left fun heq ↦ ?_
    rw [heq] at hproject
    rw [leadsToFile_iff_of_isProjectFile hlookup hlookup' hadd hproject]
    refine and_congr_right fun hleads ↦ ?_
    obtain ⟨⟨content, modified, hfound⟩, -⟩ :=
      (leadsToFile_iff_of_isProjectFile hlookup hlookup' hadd hproject).2 hleads
    refine isWalked_iff_of_not_below hadd hlinks hd' (seek_of_lookup hlookup') hfound
      fun n rest hns ↦ hbelow
        ⟨n :: rest, List.cons_ne_nil _ _, fun m hm ↦ ?_, by rw [heq, hns, List.foldl_append]⟩
    exact ((hd'.get? (get?_of_lookup hlookup')).isEntryName hfound m (by simp [hns, hm])).isName

end

section

variable {σ : Type} [Traced σ] [OnDisk σ] {root : String} {logger : Logger σ} {s s' : σ}

/-- **A new `.ignore` file only takes files away**, and only such as lie below its directory, if it
keeps nothing in and no link leads to it. -/
theorem fileNames_addition (hs : (OnDisk.disk s).root.IsRealizable) {place : Place} {node : Node}
    (hlookup : (OnDisk.disk s).lookup root = .ok (place, node)) {ms : List String}
    {entries : List (String × Node)} (hdir : node.get? ms = some (.dir entries))
    (hfree : Node.find? ".ignore" entries = none) {content : ByteArray} {modified : Int}
    (hs' : OnDisk.disk s' =
      (OnDisk.disk s).putAt (place ++ ms ++ [".ignore"]) (.file content modified))
    (hkeep : KeepsNothing (File.ofContent content).rules)
    (hlinks : HasNoLinkTo (OnDisk.disk s').root (place ++ ms ++ [".ignore"])) :
    let files := ((directoryProject root logger).fileNames s).1
    let files' := ((directoryProject root logger).fileNames s').1
    files'.Sublist files ∧
      ∀ f, ¬ LiesBelow (Path.shown (ms.foldl Path.join root)) f →
        (f ∈ files' ↔ f ∈ files) ∧ files'.count f = files.count f := by
  intro files files'
  have hplace : (OnDisk.disk s).root.get? (place ++ ms) = some (.dir entries) := by
    rw [Node.get?_append, get?_of_lookup hlookup, Option.bind_some, hdir]
  have hadd : (OnDisk.disk s).IsAddition (place ++ ms ++ [".ignore"]) (.file content modified)
      (OnDisk.disk s') := hs' ▸ isAddition_putAt hplace hfree content modified
  have hrealizable : (OnDisk.disk s').root.IsRealizable := by
    have hnames : ∀ n ∈ place ++ ms ++ [".ignore"], IsEntryName n := List.forall_mem_append.2
      ⟨hs.isEntryName hplace, List.forall_mem_singleton.2 (by decide)⟩
    rw [hs']
    exact hs.put hnames
  obtain ⟨htext, hseek⟩ := lookup_eq_ok_iff_seek.1 hlookup
  obtain ⟨-, node', hseek'⟩ := hadd.seek hseek
  have hlookup' : (OnDisk.disk s').lookup root = .ok (place, node') :=
    lookup_eq_ok_iff_seek.2 ⟨htext, hseek'⟩
  obtain ⟨listing, hlisting⟩ := exists_filesUnder hlookup
  obtain ⟨listing', hlisting'⟩ := exists_filesUnder hlookup'
  have hfiles : files = projectFiles listing.files := listFiles_of_ok hlisting
  have hfiles' : files' = projectFiles listing'.files := listFiles_of_ok hlisting'
  have hnodup := nodup_files hs hlisting
  have hnodup' := nodup_files hrealizable hlisting'
  have hle : ∀ f, files'.count f ≤ files.count f := by
    intro f
    rw [hfiles, hfiles']
    refine count_projectFiles_le hnodup' ?_
    rintro p hp rfl hproject
    exact mem_files_of_addition hs hrealizable hlookup hlookup' hadd hlinks hlisting hlisting'
      hproject rfl hkeep hp
  refine ⟨?_, fun f hbelow ↦ ?_⟩
  · rw [hfiles, hfiles'] at hle ⊢
    exact sublist_of_count_le hle
  · have hcount : files'.count f = files.count f := by
      refine Nat.le_antisymm (hle f) ?_
      rw [hfiles, hfiles']
      refine count_projectFiles_le hnodup ?_
      rintro p hp rfl hproject
      exact (mem_files_iff_of_not_below hs hrealizable hlookup hlookup' hadd hlinks hlisting
        hlisting' hproject fun h ↦ hbelow h.shown).2 hp
    exact ⟨by rw [← List.count_pos_iff, hcount, List.count_pos_iff], hcount⟩

end

/-- A repository that keeps one file in and has files further below. -/
def hiddenEntries : List (String × Node) :=
  [(".git", .dir []), (".gitignore", .file "!.h.ts\n".toUTF8 0), ("a.ts", .file .empty 0),
    ("d", .dir [(".h.ts", .file .empty 0), ("b.ts", .file .empty 0)])]

/-- A disk with that repository. -/
def hiddenDisk : Disk := workDisk [("p", .dir hiddenEntries)]

theorem lookup_hidden : hiddenDisk.lookup "p" =
    .ok (["tmp", "tz000000", "p"], .dir hiddenEntries) := rfl

/-- A file above the directory stays where it is. -/
theorem fileNames_addition_of_hidden :
    let d := hiddenDisk
    let d' := d.putAt ["tmp", "tz000000", "p", "d", ".ignore"] (.file "*.ts\n".toUTF8 0)
    let files := ((directoryProject "p" .diagnostics).fileNames ({ disk := d } : Cli.Console)).1
    let files' := ((directoryProject "p" .diagnostics).fileNames ({ disk := d' } : Cli.Console)).1
    KeepsNothing (File.ofContent "*.ts\n".toUTF8).rules ∧ files'.Sublist files ∧
      "p/a.ts" ∈ files' := by
  intro d d' files files'
  have hrealizable : d.root.IsRealizable := by decide
  have hkeep : KeepsNothing (File.ofContent "*.ts\n".toUTF8).rules := by decide +kernel
  have hlinks : HasNoLinkTo d'.root ["tmp", "tz000000", "p", "d", ".ignore"] := by
    refine hasNoLinkTo_of_isLinkFree ?_ _
    simp [d', d, hiddenDisk, workDisk, hiddenEntries, putAt, Node.put, Node.setEntry, Node.find?,
      Node.isLinkFree_dir_iff, Node.IsLinkFree.file]
  have hspec := @fileNames_addition Cli.Console _ _ "p" .diagnostics { disk := d } { disk := d' }
    hrealizable _ _ lookup_hidden ["d"] _ rfl (by decide) _ _ rfl hkeep hlinks
  have hlisted : ((OnDisk.disk ({ disk := hiddenDisk } : Cli.Console)).filesUnder
      "p").toOption.map Listing.files = some ["p/a.ts", "p/d/.h.ts", "p/d/b.ts"] := by
    decide +kernel
  have hbefore : "p/a.ts" ∈ files :=
    (mem_fileNames_iff_of_filesUnder hlisted (by decide)).2 ⟨by simp, by decide⟩
  have habove : ¬ LiesBelow "p/d" "p/a.ts" := fun hbelow ↦
    absurd hbelow.moves_isPrefix (by decide)
  have hshown : Path.shown "p/d" = "p/d" := by decide
  exact ⟨hkeep, hspec.1, (hspec.2 _ (hshown.symm ▸ habove)).1.2 hbefore⟩

/-- A directory whose `.git` is a link to a file that is not there, and an empty one beside it. -/
def linkedEntries : List (String × Node) :=
  [("d", .dir []), ("q", .dir [(".git", .link "../d/.ignore"),
    (".gitignore", .file "!.x.ts\na.ts\n".toUTF8 0), (".x.ts", .file .empty 0),
    ("a.ts", .file .empty 0)])]

/-- A disk with these directories. -/
def linkedDisk : Disk := workDisk [("p", .dir linkedEntries)]

theorem lookup_linked :
    linkedDisk.lookup "p/d" = .ok (["tmp", "tz000000", "p", "d"], .dir []) := rfl

/-- **A link can make more of a new `.ignore` file.**  Here it makes a repository of another
directory, so that a file is listed that was not and one is missing that was there, neither of them
below the directory of the new file. -/
theorem fileNames_addition_with_link :
    let d := linkedDisk
    let d' := d.putAt ["tmp", "tz000000", "p", "d", ".ignore"] (.file "y.ts\n".toUTF8 0)
    let files := ((directoryProject "p" .diagnostics).fileNames ({ disk := d } : Cli.Console)).1
    let files' := ((directoryProject "p" .diagnostics).fileNames ({ disk := d' } : Cli.Console)).1
    d.root.IsRealizable ∧ d.lookup "p/d" = .ok (["tmp", "tz000000", "p", "d"], .dir []) ∧
      KeepsNothing (File.ofContent "y.ts\n".toUTF8).rules ∧
      ¬ LiesBelow "p/d" "p/q/a.ts" ∧ "p/q/a.ts" ∈ files ∧ "p/q/a.ts" ∉ files' ∧
      ¬ files'.Sublist files := by
  intro d d' files files'
  have hlisted : ((OnDisk.disk ({ disk := linkedDisk } : Cli.Console)).filesUnder
      "p").toOption.map Listing.files = some ["p/q/a.ts"] := by decide +kernel
  have hlisted' : ((linkedDisk.putAt ["tmp", "tz000000", "p", "d", ".ignore"]
      (.file "y.ts\n".toUTF8 0)).filesUnder "p").toOption.map Listing.files =
        some ["p/q/.x.ts"] := by decide +kernel
  have hafter : ∀ f, f ∈ files' ↔ f ∈ ["p/q/.x.ts"] ∧ isProjectFile f = true := fun f ↦
    mem_fileNames_iff_of_filesUnder hlisted' (by decide)
  have hnew : "p/q/.x.ts" ∈ files' := (hafter _).2 ⟨by simp, by decide⟩
  have hbeside : ¬ LiesBelow "p/d" "p/q/a.ts" := fun hbelow ↦
    absurd hbelow.moves_isPrefix (by decide)
  refine ⟨?_, lookup_linked, by decide +kernel, hbeside,
    (mem_fileNames_iff_of_filesUnder hlisted (by decide)).2 ⟨by simp, by decide⟩, fun hmem ↦ ?_,
    fun hsub ↦ ?_⟩
  · decide
  · have hfound := ((hafter _).1 hmem).1
    simp at hfound
  · have hfound := ((mem_fileNames_iff_of_filesUnder hlisted (by decide)).1 (hsub.subset hnew)).1
    simp at hfound

end Workbench

end HostOverlay
