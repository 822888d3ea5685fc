import HostOverlay.Proofs.Disk.Tree
import HostOverlay.Proofs.Path.Spelling

/-!
# Looking up what lies below a directory

A path with a name joined to it leads to the entry of that name, in the directory that the path
leads to, however the path is spelt: with `..`, with slashes at its end or through links.  Together
with the walk this means that whatever a walk comes upon can be found again by its path as it is
written, as long as that is not too long for a path.  If it is a text, it can be looked up as well.

* `Node.IsRealizable`: a tree that a file system can hold, which can be decided.
* `followLinks_append`: once segments have led to a directory, further ones go on from there.
* `seek_eq_ok_iff`: a search for a written path, without the guards around it.
* `lookup_eq_ok_iff_seek`: a lookup is such a search for a text.
* `seek_join`, `seek_foldl_join`: one name below a path, and any number of them.
-/

set_option autoImplicit false

namespace HostOverlay

/-! ## Trees that a file system can hold -/

/-- What is written stands for bytes that a file system takes as the name of an entry. -/
structure IsEntryName (n : String) : Prop where
  isName : Path.IsName n
  no_nul : 0 ∉ Path.bytes n
  size_le : Path.size n ≤ Disk.maxName

instance (n : String) : Decidable (IsEntryName n) :=
  decidable_of_iff (Path.IsName n ∧ 0 ∉ Path.bytes n ∧ Path.size n ≤ Disk.maxName)
    ⟨fun ⟨h₁, h₂, h₃⟩ ↦ ⟨h₁, h₂, h₃⟩, fun h ↦ ⟨h.1, h.2, h.3⟩⟩

/-- In and below the node every entry has a name that a file system takes, and the entries of one
directory have different names. -/
inductive Node.IsRealizable : Node → Prop
  | file (content : ByteArray) (modified : Int) : IsRealizable (.file content modified)
  | link (target : String) : IsRealizable (.link target)
  | dir {entries : List (String × Node)} (distinct : (entries.map Prod.fst).Nodup)
      (names : ∀ e ∈ entries, IsEntryName e.1) (nodes : ∀ e ∈ entries, IsRealizable e.2) :
      IsRealizable (.dir entries)

namespace Node

theorem isRealizable_dir_iff {entries : List (String × Node)} :
    (Node.dir entries).IsRealizable ↔
      (entries.map Prod.fst).Nodup ∧ ∀ e ∈ entries, IsEntryName e.1 ∧ e.2.IsRealizable := by
  constructor
  · intro h
    cases h with
    | dir distinct names nodes => exact ⟨distinct, fun e he ↦ ⟨names e he, nodes e he⟩⟩
  · rintro ⟨distinct, h⟩
    exact .dir distinct (fun e he ↦ (h e he).1) fun e he ↦ (h e he).2

mutual

/-- It can be decided whether a file system can hold a tree. -/
def decideRealizable : (node : Node) → Decidable node.IsRealizable
  | .file content modified => isTrue (.file content modified)
  | .link target => isTrue (.link target)
  | .dir entries =>
    have := decideEntries entries
    decidable_of_iff _ isRealizable_dir_iff.symm

/-- The same for all entries of a directory. -/
def decideEntries : (entries : List (String × Node)) →
    Decidable (∀ e ∈ entries, IsEntryName e.1 ∧ e.2.IsRealizable)
  | [] => isTrue (List.forall_mem_nil _)
  | (_, node) :: rest =>
    have := decideRealizable node
    have := decideEntries rest
    decidable_of_iff _ List.forall_mem_cons.symm

end

instance (node : Node) : Decidable node.IsRealizable := decideRealizable node

theorem IsRealizable.isProper {node : Node} (h : node.IsRealizable) : node.IsProper := by
  induction h with
  | file content modified => exact .file content modified
  | link target => exact .link target
  | dir distinct names nodes ih => exact .dir (fun e he ↦ (names e he).isName) ih

/-- Where names differ, an entry is found by its name. -/
theorem find?_of_mem {entries : List (String × Node)} (h : (entries.map Prod.fst).Nodup)
    {e : String × Node} (he : e ∈ entries) : find? e.1 entries = some e.2 := by
  induction entries with
  | nil => cases he
  | cons e' rest ih =>
    rw [List.map_cons, List.nodup_cons] at h
    rw [find?]
    obtain rfl | he := List.mem_cons.1 he
    · rw [if_pos rfl]
    · have hne : e'.1 ≠ e.1 := by
        intro heq
        exact h.1 (heq ▸ List.mem_map_of_mem he)
      rw [if_neg hne, ih h.2 he]

theorem get?_cons_dir (name : String) (rest : Place) (entries : List (String × Node)) :
    (Node.dir entries).get? (name :: rest) =
      (find? name entries).bind fun child ↦ child.get? rest := by
  rw [get?, child?]
  cases find? name entries with
  | none => rfl
  | some child => rfl

/-- Only a directory has anything below it. -/
theorem exists_dir_of_get?_cons {node found : Node} {name : String} {rest : Place}
    (h : node.get? (name :: rest) = some found) :
    ∃ entries child, node = .dir entries ∧ find? name entries = some child ∧
      child.get? rest = some found := by
  cases node with
  | file content modified => cases h
  | link target => cases h
  | dir entries =>
    rw [get?_cons_dir] at h
    obtain ⟨child, hchild, h⟩ := Option.bind_eq_some_iff.1 h
    exact ⟨entries, child, rfl, hchild, h⟩

/-- Whatever an entry lies below is a directory. -/
theorem exists_dir_of_isPrefix {ms ns : Place} {n : String} : ∀ {node found : Node},
    node.get? ns = some found → ms ++ [n] <+: ns →
      ∃ entries, node.get? ms = some (.dir entries) := by
  induction ms generalizing ns with
  | nil =>
    rintro node found h ⟨rest, rfl⟩
    obtain ⟨entries, -, rfl, -, -⟩ := exists_dir_of_get?_cons h
    exact ⟨entries, rfl⟩
  | cons m ms ih =>
    rintro node found h ⟨rest, rfl⟩
    obtain ⟨entries, child, rfl, hchild, h⟩ := exists_dir_of_get?_cons h
    obtain ⟨es, hes⟩ := ih h (List.prefix_append _ _)
    exact ⟨es, by rw [get?_cons_dir, hchild, Option.bind_some, hes]⟩

/-- Above a directory there is a directory. -/
theorem exists_dir_dropLast {root : Node} {place : Place} {entries : List (String × Node)}
    (h : root.get? place = some (.dir entries)) :
    ∃ es, root.get? place.dropLast = some (.dir es) := by
  rcases List.eq_nil_or_concat place with rfl | ⟨above, name, rfl⟩
  · exact ⟨entries, h⟩
  · rw [List.concat_eq_append] at h ⊢
    rw [List.dropLast_concat]
    exact exists_dir_of_isPrefix h (List.prefix_refl _)

theorem IsRealizable.get? {place : Place} : ∀ {node child : Node}, node.IsRealizable →
    node.get? place = some child → child.IsRealizable := by
  induction place with
  | nil =>
    intro node child h hget
    exact Option.some.inj hget ▸ h
  | cons name rest ih =>
    intro node child h hget
    obtain ⟨entries, next, rfl, hnext, hget⟩ := exists_dir_of_get?_cons hget
    exact ih ((isRealizable_dir_iff.1 h).2 _ (mem_of_find? hnext)).2 hget

/-- The names on the way to an entry are names of entries. -/
theorem IsRealizable.isEntryName {place : Place} : ∀ {node found : Node}, node.IsRealizable →
    node.get? place = some found → ∀ n ∈ place, IsEntryName n := by
  induction place with
  | nil => simp
  | cons name rest ih =>
    intro node found h hget
    obtain ⟨entries, next, rfl, hnext, hget⟩ := exists_dir_of_get?_cons hget
    obtain ⟨hname, hnode⟩ := (isRealizable_dir_iff.1 h).2 _ (mem_of_find? hnext)
    exact List.forall_mem_cons.2 ⟨hname, ih hnode hget⟩

end Node

namespace Disk

/-! ## Going on from a directory -/

/-- Following segments with some number of links left is following them, with something to do at a
link. -/
theorem exists_followLinks_eq (root : Node) (purpose : Purpose) (n : Nat) :
    ∃ onLink, followLinks root purpose n = follow root purpose onLink := by
  cases n with
  | zero => exact ⟨_, rfl⟩
  | succ n => exact ⟨_, rfl⟩

theorem follow_stay {root : Node} {purpose : Purpose}
    {onLink : Place → List String → Except IoError Landing} {place : Place}
    {entries : List (String × Node)} (h : root.get? place = some (.dir entries)) {s : String}
    (hs : Path.isStay s = true) (rest : List String) :
    follow root purpose onLink place (s :: rest) = follow root purpose onLink place rest := by
  rw [follow, h]
  exact if_pos hs

section

variable {root : Node} {slashes : List String} (hslashes : ∀ s ∈ slashes, s = "") {q : Place}
  {entries : List (String × Node)}

include hslashes

/-- Slashes alone lead nowhere else. -/
theorem follow_slashes {onLink : Place → List String → Except IoError Landing} {place : Place}
    (h : follow root .target onLink place slashes = .ok (.entry q (.dir entries))) :
    place = q := by
  induction slashes with
  | nil =>
    rw [follow] at h
    split at h
    · exact (Landing.entry.inj (Except.ok.inj h)).1
    · cases h
  | cons s rest ih =>
    rw [List.forall_mem_cons] at hslashes
    obtain ⟨hs, hrest⟩ := hslashes
    cases hplace : root.get? place with
    | none =>
      rw [follow, hplace] at h
      cases h
    | some node =>
      cases node with
      | dir es => exact ih hrest (by rwa [follow_stay hplace (by rw [hs]; rfl)] at h)
      | file content modified =>
        rw [follow, hplace] at h
        cases h
      | link target =>
        rw [follow, hplace] at h
        cases h

/-- Going on without a link is going on with the same links left. -/
theorem follow_append {onLink : Place → List String → Except IoError Landing}
    (hlink : ∀ place ss, onLink place (ss ++ slashes) = .ok (.entry q (.dir entries)) →
      ∃ m, ∀ rest, onLink place (ss ++ rest) = followLinks root .target m q rest)
    {ss : List String} : ∀ {place : Place},
      follow root .target onLink place (ss ++ slashes) = .ok (.entry q (.dir entries)) →
      (∀ rest, follow root .target onLink place (ss ++ rest) = follow root .target onLink q rest) ∨
        ∃ m, ∀ rest, follow root .target onLink place (ss ++ rest) =
          followLinks root .target m q rest := by
  induction ss with
  | nil =>
    intro place h
    obtain rfl := follow_slashes hslashes h
    exact .inl fun rest ↦ rfl
  | cons s ss ih =>
    intro place h
    simp only [List.cons_append] at h ⊢
    rw [follow] at h
    simp only [follow]
    cases hplace : root.get? place with
    | none =>
      rw [hplace] at h
      cases h
    | some node =>
      rw [hplace] at h
      cases node with
      | file content modified => cases h
      | link target => cases h
      | dir es =>
        simp only at h ⊢
        split at h
        · rename_i hstay
          simpa only [if_pos hstay] using ih h
        rename_i hstay
        split at h
        · rename_i hup
          simpa only [if_neg hstay, if_pos hup] using ih h
        rename_i hup
        simp only [if_neg hstay, if_neg hup, reduceCtorEq, decide_false, Bool.false_and,
          Bool.false_eq_true, if_false] at h ⊢
        split at h
        · cases h
        rename_i hsize
        simp only [if_neg hsize]
        cases hfind : Node.find? s es with
        | none =>
          -- a vacant name is no directory
          rw [hfind] at h
          simp only at h
          split at h
          · cases h
          · cases h
        | some child =>
          rw [hfind] at h
          cases child with
          | link target =>
            simp only [Bool.and_false, Bool.false_eq_true, if_false, ← List.append_assoc] at h ⊢
            obtain ⟨m, hm⟩ := hlink _ _ h
            exact .inr ⟨m, fun rest ↦ by rw [← hm rest, List.append_assoc]⟩
          | file content modified => exact ih h
          | dir es' => exact ih h

/-- **Segments that lead to a directory can be gone on from.**  Slashes at their end do not
matter. -/
theorem followLinks_append (n : Nat) : ∀ (place : Place) (ss : List String),
    followLinks root .target n place (ss ++ slashes) = .ok (.entry q (.dir entries)) →
    ∃ m, ∀ rest, followLinks root .target n place (ss ++ rest) =
      followLinks root .target m q rest := by
  induction n with
  | zero =>
    intro place ss h
    rcases follow_append hslashes (by simp) h with h | h
    · exact ⟨0, h⟩
    · exact h
  | succ n ih =>
    intro place ss h
    rcases follow_append hslashes ih h with h | h
    · exact ⟨n + 1, h⟩
    · exact h

end

/-! ## Looking up a path -/

/-- Where the segments of a path start from. -/
def startOf (d : Disk) (path : String) : Place :=
  if Path.isAbsolute path then [] else placeOf d.workingDirectory

/-- A written path that can be followed. -/
structure IsRoute (path : String) : Prop where
  ne_empty : path ≠ ""
  size_le : Path.size path ≤ maxPath

/-- A text that can be followed as a path. -/
structure IsPath (path : String) : Prop where
  isText : Path.IsText path
  ne_empty : path ≠ ""
  size_le : path.utf8ByteSize ≤ maxPath

theorem isPath_iff {path : String} : IsPath path ↔ Path.IsText path ∧ IsRoute path := by
  constructor
  · intro h
    exact ⟨h.isText, h.ne_empty, Path.size_of_isText h.isText ▸ h.size_le⟩
  · rintro ⟨htext, h⟩
    exact ⟨htext, h.ne_empty, Path.size_of_isText htext ▸ h.size_le⟩

theorem IsPath.isRoute {path : String} (h : IsPath path) : IsRoute path :=
  (isPath_iff.1 h).2

theorem route_of_isRoute {path : String} (h : IsRoute path) (d : Disk) (purpose : Purpose) :
    d.route purpose path =
      followLinks d.root purpose maxLinks (d.startOf path) (Path.segments path) := by
  rw [route, if_neg h.ne_empty, if_neg (Nat.not_lt.2 h.size_le), startOf]

/-- A written path that is followed anywhere can be followed. -/
theorem isRoute_of_route {d : Disk} {purpose : Purpose} {path : String} {l : Landing}
    (h : d.route purpose path = .ok l) : IsRoute path := by
  rw [route] at h
  split at h
  · cases h
  rename_i hne
  split at h
  · cases h
  rename_i hsize
  exact ⟨hne, Nat.not_lt.1 hsize⟩

theorem route_of_too_long {path : String} (h : maxPath < Path.size path) (d : Disk)
    (purpose : Purpose) : d.route purpose path = .error .nameTooLong := by
  have hne : path ≠ "" := by
    rintro rfl
    exact absurd h (by decide)
  rw [route, if_neg hne, if_pos h]

/-- A text is followed as it is written. -/
theorem locate_of_isText {path : String} (h : Path.IsText path) (d : Disk) (purpose : Purpose) :
    d.locate purpose path = d.route purpose path := by
  rw [locate, if_neg (by simpa [Path.IsText] using h)]

theorem isText_of_locate {d : Disk} {purpose : Purpose} {path : String} {l : Landing}
    (h : d.locate purpose path = .ok l) : Path.IsText path := by
  rw [locate] at h
  split at h
  · cases h
  rename_i hnul
  simpa [Path.IsText] using hnul

theorem locate_of_isPath {path : String} (h : IsPath path) (d : Disk) (purpose : Purpose) :
    d.locate purpose path =
      followLinks d.root purpose maxLinks (d.startOf path) (Path.segments path) := by
  rw [locate_of_isText h.isText, route_of_isRoute h.isRoute]

/-- A path that is located anywhere is one. -/
theorem isPath_of_locate {d : Disk} {purpose : Purpose} {path : String} {l : Landing}
    (h : d.locate purpose path = .ok l) : IsPath path :=
  isPath_iff.2 ⟨isText_of_locate h, isRoute_of_route (route_of_locate h)⟩

/-- A lookup is a search, unless what is looked up is no text. -/
theorem lookup_eq (d : Disk) (path : String) :
    d.lookup path = if path.toList.contains '\x00' then .error .nulInPath else d.seek path := by
  rw [lookup, locate]
  split
  · rfl
  · rfl

theorem lookup_of_isText {path : String} (h : Path.IsText path) (d : Disk) :
    d.lookup path = d.seek path := by
  rw [lookup_eq, if_neg (by simpa [Path.IsText] using h)]

theorem seek_of_too_long {path : String} (h : maxPath < Path.size path) (d : Disk) :
    d.seek path = .error .nameTooLong := by
  rw [seek, route_of_too_long h]
  rfl

theorem seek_of_route {d : Disk} {path : String} {l : Landing}
    (h : d.route .target path = .ok l) : d.seek path = l.reached := by
  rw [seek, h]
  rfl

theorem lookup_of_locate {d : Disk} {path : String} {l : Landing}
    (h : d.locate .target path = .ok l) : d.lookup path = l.reached := by
  rw [lookup, h]
  rfl

/-- A lookup that succeeds is a search for a text. -/
theorem lookup_eq_ok_iff_seek {d : Disk} {path : String} {found : Place × Node} :
    d.lookup path = .ok found ↔ Path.IsText path ∧ d.seek path = .ok found := by
  constructor
  · intro h
    refine ⟨?_, seek_of_lookup h⟩
    cases hl : d.locate .target path with
    | error e =>
      rw [lookup, hl] at h
      cases h
    | ok l => exact isText_of_locate hl
  · rintro ⟨htext, h⟩
    rw [lookup_of_isText htext, h]

/-- A search that succeeds follows the segments of a path to an entry. -/
theorem seek_eq_ok_iff {d : Disk} {path : String} {place : Place} {node : Node} :
    d.seek path = .ok (place, node) ↔ IsRoute path ∧
      followLinks d.root .target maxLinks (d.startOf path) (Path.segments path) =
        .ok (.entry place node) := by
  constructor
  · intro h
    cases hl : d.route .target path with
    | error e =>
      rw [seek, hl] at h
      cases h
    | ok l =>
      have hroute := isRoute_of_route hl
      rw [seek_of_route hl] at h
      rw [route_of_isRoute hroute] at hl
      cases l with
      | vacant directory name => cases h
      | entry place' node' =>
        obtain ⟨rfl, rfl⟩ := Prod.mk.inj (Except.ok.inj h)
        exact ⟨hroute, hl⟩
  · rintro ⟨hroute, hl⟩
    rw [← route_of_isRoute hroute] at hl
    rw [seek_of_route hl]
    rfl

/-- A lookup that succeeds follows the segments of a path to an entry. -/
theorem lookup_eq_ok_iff {d : Disk} {path : String} {place : Place} {node : Node} :
    d.lookup path = .ok (place, node) ↔ IsPath path ∧
      followLinks d.root .target maxLinks (d.startOf path) (Path.segments path) =
        .ok (.entry place node) := by
  rw [lookup_eq_ok_iff_seek, seek_eq_ok_iff, isPath_iff, and_assoc]

/-! ## Reading a file -/

/-- Reading is fetching, unless what is read from is no text. -/
theorem read_eq (d : Disk) (path : String) :
    d.read path = if path.toList.contains '\x00' then .error .nulInPath else d.fetch path := by
  rw [read, lookup_eq]
  split
  · rfl
  · rfl

theorem fetch_of_seek {d : Disk} {path : String} {place : Place} {content : ByteArray}
    {modified : Int} (h : d.seek path = .ok (place, .file content modified)) :
    d.fetch path = .ok content := by
  rw [fetch, h]
  rfl

theorem read_of_lookup {d : Disk} {path : String} {place : Place} {content : ByteArray}
    {modified : Int} (h : d.lookup path = .ok (place, .file content modified)) :
    d.read path = .ok content := by
  rw [read, h]
  rfl

section

variable {d : Disk} {path : String} {content : ByteArray} (h : d.read path = .ok content)

include h

theorem readText_of_text {text : String} (htext : String.fromUTF8? content = some text) :
    d.readText path = .ok text := by
  rw [readText, h]
  simp only [bind, Except.bind, htext]

theorem readText_of_not_text (hnone : String.fromUTF8? content = none) :
    d.readText path = .error .invalidText := by
  rw [readText, h]
  simp only [bind, Except.bind, hnone]

end

/-! ## Names below a path -/

/-- The segments of a path with a name joined to it: those of the path, without a slash at its end,
and the name. -/
theorem segments_join_name {p n : String} (hp : p ≠ "") (hn : Path.IsName n) :
    ∃ ss slashes : List String, (∀ s ∈ slashes, s = "") ∧
    Path.segments p = ss ++ slashes ∧ Path.segments (Path.join p n) = ss ++ [n] := by
  have hrel : Path.isAbsolute n = false := Path.isAbsolute_of_no_slash hn.no_slash
  have hname : Path.segments n = [n] := Path.segments_of_no_slash hn.no_slash
  simp only [Path.join, hrel, hp, Bool.false_eq_true, if_false, decide_false, Bool.false_or]
  split
  · rename_i hslash
    obtain ⟨q, rfl⟩ := Path.hasTrailingSlash_iff.1 hslash
    refine ⟨Path.segments q, [""], by simp, Path.segments_append_slash q, ?_⟩
    rw [Path.segments_slash, hname]
  · refine ⟨Path.segments p, [], by simp, by simp, ?_⟩
    rw [Path.segments_slash, hname]

theorem getLast?_segments_join (p : String) {n : String} (hn : Path.IsName n) :
    (Path.segments (Path.join p n)).getLast? = some n := by
  rw [Path.getLast?_segments_join, Path.segments_of_no_slash hn.no_slash, List.getLast?_singleton]

theorem startOf_join (d : Disk) (p : String) {n : String} (hn : Path.IsName n) :
    d.startOf (Path.join p n) = d.startOf p := by
  rw [startOf, startOf, Path.isAbsolute_join, Path.isAbsolute_of_no_slash hn.no_slash,
    Bool.false_or]

/-- What a path begins with, up to something joined to it, can be followed. -/
theorem isRoute_of_join {p n : String} (hp : p ≠ "") (hn : Path.isAbsolute n = false)
    (h : IsRoute (Path.join p n)) : IsRoute p :=
  ⟨hp, Nat.le_trans (Path.size_le_size_join p hn) h.size_le⟩

section

variable {d : Disk} {p : String} {place : Place}

/-- **A name below a directory** leads to the directory's entry of that name. -/
theorem seek_join {entries : List (String × Node)} (h : d.seek p = .ok (place, .dir entries))
    {n : String} (hn : IsEntryName n) (hsize : Path.size (Path.join p n) ≤ maxPath)
    (hlink : ∀ target, Node.find? n entries ≠ some (.link target)) :
    d.seek (Path.join p n) =
      match Node.find? n entries with
      | some child => .ok (place ++ [n], child)
      | none => .error .notFound := by
  obtain ⟨hpath, hfollow⟩ := seek_eq_ok_iff.1 h
  have hdir := get?_of_seek h
  have hjoin : IsRoute (Path.join p n) := by
    refine ⟨fun hempty ↦ ?_, hsize⟩
    have hlast := getLast?_segments_join p hn.isName
    rw [hempty, Path.segments_empty] at hlast
    exact hn.isName.ne_empty (Option.some.inj hlast).symm
  obtain ⟨ss, slashes, hslashes, hsegments, hsegments'⟩ :=
    segments_join_name hpath.ne_empty hn.isName
  rw [hsegments] at hfollow
  obtain ⟨m, hm⟩ := followLinks_append hslashes _ _ _ hfollow
  -- what is left is the last step, from the directory
  have hstep : ∀ onLink, follow d.root .target onLink place [n] =
      match Node.find? n entries with
      | some child => .ok (.entry (place ++ [n]) child)
      | none => .ok (.vacant place n) := by
    intro onLink
    rw [follow, hdir]
    simp only [hn.isName.isStay, hn.isName.ne_dotdot, Nat.not_lt.2 hn.size_le, Bool.false_eq_true,
      if_false, reduceCtorEq, decide_false, Bool.false_and, List.all_nil, if_true]
    have hconcat := Node.get?_concat hdir n
    cases hfind : Node.find? n entries with
    | none => rfl
    | some child =>
      rw [hfind] at hconcat
      cases child with
      | link target => exact absurd hfind (hlink target)
      | file content modified => simp only [follow, hconcat]
      | dir es => simp only [follow, hconcat]
  have hland : d.route .target (Path.join p n) =
      match Node.find? n entries with
      | some child => .ok (.entry (place ++ [n]) child)
      | none => .ok (.vacant place n) := by
    rw [route_of_isRoute hjoin, startOf_join d p hn.isName, hsegments', hm]
    cases m with
    | zero => exact hstep _
    | succ m => exact hstep _
  cases hfind : Node.find? n entries with
  | none =>
    rw [hfind] at hland
    exact seek_of_route hland
  | some child =>
    rw [hfind] at hland
    exact seek_of_route hland

/-- **Names below a path** lead to what lies below the entry that the path leads to. -/
theorem seek_foldl_join {ns : List String} : ∀ {p : String} {place : Place} {node found : Node},
    d.seek p = .ok (place, node) → node.IsRealizable → node.get? ns = some found →
    (∀ target, found ≠ .link target) → Path.size (ns.foldl Path.join p) ≤ maxPath →
    d.seek (ns.foldl Path.join p) = .ok (place ++ ns, found) := by
  induction ns with
  | nil =>
    intro p place node found h hnode hget hlink hsize
    obtain rfl := Option.some.inj hget
    rwa [List.foldl_nil, List.append_nil]
  | cons n ns ih =>
    intro p place node found h hnode hget hlink hsize
    have hnames := hnode.isEntryName hget
    have hrel : ∀ m ∈ n :: ns, Path.isAbsolute m = false := fun m hm ↦
      Path.isAbsolute_of_no_slash (hnames m hm).isName.no_slash
    rw [List.forall_mem_cons] at hnames hrel
    obtain ⟨entries, child, rfl, hchild, hget⟩ := Node.exists_dir_of_get?_cons hget
    -- what lies further below cannot lie below a link
    have hnolink : ∀ target, Node.find? n entries ≠ some (.link target) := by
      intro target htarget
      obtain rfl := Option.some.inj (htarget.symm.trans hchild)
      cases ns with
      | nil => exact hlink target (Option.some.inj hget).symm
      | cons m ms => cases hget
    have hstep := seek_join h hnames.1
      (Nat.le_trans (Path.size_le_size_foldl_join hrel.2 (Path.join p n)) hsize) hnolink
    rw [hchild] at hstep
    rw [List.foldl_cons, ih hstep ((Node.isRealizable_dir_iff.1 hnode).2 _
      (Node.mem_of_find? hchild)).2 hget hlink hsize, List.append_assoc, List.singleton_append]

end

end Disk

end HostOverlay
