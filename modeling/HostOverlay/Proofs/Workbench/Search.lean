import HostOverlay.Proofs.Path.Fold
import HostOverlay.Proofs.Script.Endings
import HostOverlay.Proofs.Workbench.Imports

/-!
# What the search for a module finds

The host over a disk looks for a module at a list of candidates and takes the first that is a file.
`IsFirstMatch` says what such a search has to report, without a word about how it goes about it.

* `firstModule_isFirstMatch`: this is what the search reports, for every list of candidates.
* `extension_of_found`: every candidate has a known ending, so the extension of a module that is
  found is read off its name and never has to be made up.
* `resolveModuleNames_spec` is what the host answers to a batch.
* `resolveModuleNames_append_slash`: a slash at the end of a relative specifier makes no difference,
  except behind a bare `.` or `..`.  Only what begins with `./` or `../` is taken for relative, so
  the bare ones are packages.
-/

set_option autoImplicit false

namespace HostOverlay.Workbench

open HostOverlay.Path (resolve directory segments)

/-! ## Specifiers that name a file -/

/-- The specifier begins the way the path of a file does. -/
def NamesFile (text : String) : Prop :=
  ∃ rest, text = "./" ++ rest ∨ text = "../" ++ rest ∨ text = "/" ++ rest

theorem namesFile_iff {text : String} : namesFile text = true ↔ NamesFile text := by
  rw [namesFile, List.any_cons, List.any_cons, List.any_cons, List.any_nil, Bool.or_false,
    Bool.or_eq_true, Bool.or_eq_true, Path.isPrefixOf_toList_iff, Path.isPrefixOf_toList_iff,
    Path.isPrefixOf_toList_iff, NamesFile, exists_or, exists_or]

/-- The text is a relative specifier: its first segment says where it stays or that it goes up. -/
def IsRelative (text : String) : Prop :=
  (segments text).head? = some "." ∨ (segments text).head? = some ".."

instance (text : String) : Decidable (IsRelative text) :=
  inferInstanceAs (Decidable (_ ∨ _))

/-- A relative specifier that is more than its first segment names a file. -/
theorem IsRelative.cases {text : String} (h : IsRelative text) :
    (text = "." ∨ text = "..") ∨ NamesFile text := by
  obtain ⟨s, rest, hs⟩ := List.exists_cons_of_ne_nil (Path.segments_ne_nil text)
  have htext : text = Path.joinSegments (s :: rest) := by rw [← hs, Path.joinSegments_segments]
  rw [IsRelative, hs, List.head?_cons, Option.some_inj, Option.some_inj] at h
  by_cases hrest : rest = []
  · rw [hrest, Path.joinSegments_singleton] at htext
    exact .inl (htext ▸ h)
  · rw [← List.singleton_append, Path.joinSegments_append (List.cons_ne_nil _ _) hrest,
      Path.joinSegments_singleton] at htext
    refine .inr ⟨Path.joinSegments rest, ?_⟩
    rcases h with rfl | rfl
    · exact .inl htext
    · exact .inr (.inl htext)

theorem NamesFile.append {text : String} (h : NamesFile text) (behind : String) :
    NamesFile (text ++ behind) := by
  obtain ⟨rest, h⟩ := h
  refine ⟨rest ++ behind, ?_⟩
  rcases h with rfl | rfl | rfl
  · exact .inl (String.append_assoc ..)
  · exact .inr (.inl (String.append_assoc ..))
  · exact .inr (.inr (String.append_assoc ..))

/-- With a slash at the end, every relative specifier names a file. -/
theorem IsRelative.append_slash {text : String} (h : IsRelative text) :
    NamesFile (text ++ "/") := by
  rcases h.cases with (rfl | rfl) | h
  · exact ⟨"", .inl rfl⟩
  · exact ⟨"", .inr (.inl rfl)⟩
  · exact h.append "/"

theorem IsRelative.ne_empty {text : String} (h : IsRelative text) : text ≠ "" := by
  rintro rfl
  rw [IsRelative, Path.segments_empty] at h
  simp at h

/-! ## The first match -/

/-- What has to be reported of a search that goes through the candidates in their order and stops at
the first file. -/
structure IsFirstMatch (isFile : String → Bool) (cs : List String) (r : Resolution) : Prop where
  isSome_iff : r.module.isSome = true ↔ ∃ c ∈ cs, isFile c = true
  isFile_module : ∀ m, r.module = some m → isFile m.fileName = true
  /-- The failed lookups are the candidates before the module. -/
  failed_of_some : ∀ m, r.module = some m → ∃ behind, cs = r.failedLookups ++ m.fileName :: behind
  failed_of_none : r.module = none → r.failedLookups = cs
  missed : ∀ p ∈ r.failedLookups, isFile p = false

section

variable (isFile : String → Bool) (cs : List String)

/-- **The search reports the first match.** -/
theorem firstModule_isFirstMatch : IsFirstMatch isFile cs (firstModule isFile cs) := by
  -- the induction is on the candidates, and one more of them is a hit or a miss
  induction cs with
  | nil =>
    have hnil : firstModule isFile [] = ⟨none, []⟩ := rfl
    rw [hnil]
    exact ⟨by simp, by simp, by simp, fun _ ↦ rfl, by simp⟩
  | cons c cs ih =>
    cases hc : isFile c with
    | true =>
      rw [firstModule_cons_file cs hc]
      refine ⟨by simp [hc], ?_, ?_, by simp, by simp⟩
      · rintro m ⟨⟩
        exact hc
      · rintro m ⟨⟩
        exact ⟨cs, rfl⟩
    | false =>
      rw [firstModule_cons_missing cs hc]
      refine ⟨by simp [hc, ih.isSome_iff], ih.isFile_module, fun m hm ↦ ?_, fun hnone ↦ ?_, ?_⟩
      · obtain ⟨behind, hbehind⟩ := ih.failed_of_some m hm
        exact ⟨behind, by rw [List.cons_append, ← hbehind]⟩
      · rw [ih.failed_of_none hnone]
      · exact List.forall_mem_cons.2 ⟨hc, ih.missed⟩

/-- What the search says about the module besides its name is read off the name. -/
theorem firstModule_module {m : ResolvedModule} (h : (firstModule isFile cs).module = some m) :
    m = ⟨m.fileName, (Extension.of? m.fileName).getD .ts, false⟩ := by
  rw [firstModule] at h
  split at h
  · cases h
  · cases h
    rfl

/-- A search without candidates finds nothing, and only such a search has nothing to tell. -/
theorem firstModule_eq_unresolved_iff :
    firstModule isFile cs = .unresolved [] ↔ cs = [] := by
  constructor
  · intro h
    have hfailed := (firstModule_isFirstMatch isFile cs).failed_of_none (by rw [h]; rfl)
    rw [← hfailed, h]
    rfl
  · rintro rfl
    rfl

end

/-! ## The candidates -/

/-- Does the path end in one of the known extensions? -/
def hasExtension (path : String) : Bool :=
  Extension.all.any fun e ↦ endsIn path e.spelling

theorem isSome_of?_eq_hasExtension (path : String) :
    (Extension.of? path).isSome = hasExtension path := by
  rw [Bool.eq_iff_iff, Extension.isSome_of?_iff, hasExtension, List.any_eq_true]
  constructor
  · rintro ⟨e, he⟩
    exact ⟨e, Extension.mem_all e, he⟩
  · rintro ⟨e, -, he⟩
    exact ⟨e, he⟩

/-- Wherever a module is looked for, the name of the file has a known ending. -/
theorem isSome_of?_of_mem_candidates {base c : String} {extensions : List Extension}
    (h : c ∈ candidates base extensions) : (Extension.of? c).isSome = true := by
  rw [candidates, List.append_assoc, List.mem_append, List.mem_append, List.mem_map,
    List.mem_map] at h
  rcases h with h | ⟨e, -, rfl⟩ | ⟨e, -, rfl⟩
  · split at h
    · rename_i hbase
      rwa [List.mem_singleton.1 h]
    · exact absurd h List.not_mem_nil
  · exact Extension.isSome_of?_iff.2 ⟨e, endsIn_append _ _⟩
  · exact Extension.isSome_of?_iff.2 ⟨e, endsIn_append _ _⟩

/-- **A module that is found has an extension of its own**, the longest that its name ends in, and
there is no need to make one up. -/
theorem extension_of_found {isFile : String → Bool} {base : String}
    {extensions : List Extension} {m : ResolvedModule}
    (h : (firstModule isFile (candidates base extensions)).module = some m) :
    Extension.of? m.fileName = some m.extension ∧ m.extension.IsLongest m.fileName := by
  obtain ⟨behind, hcs⟩ := (firstModule_isFirstMatch isFile _).failed_of_some m h
  have hmem : m.fileName ∈ candidates base extensions := by
    rw [hcs]
    exact List.mem_append_right _ List.mem_cons_self
  obtain ⟨e, he⟩ := Option.isSome_iff_exists.1 (isSome_of?_of_mem_candidates hmem)
  have hext : m.extension = e := by
    rw [firstModule_module isFile _ h, he]
    rfl
  rw [hext]
  exact ⟨he, Extension.isLongest_of_of?_eq_some he⟩

/-- There is nowhere to look without extensions, unless the base has one. -/
theorem candidates_eq_nil_iff {base : String} {extensions : List Extension} :
    candidates base extensions = [] ↔ extensions = [] ∧ hasExtension base = false := by
  rw [candidates, isSome_of?_eq_hasExtension]
  cases hasExtension base <;> simp

/-! ## Batches -/

section

variable {σ : Type} [Traced σ] [OnDisk σ] [LawfulWorld σ]

/-- **What the host answers to a batch.**  It answers every batch, with one slot for each specifier,
in their order, that depends on this specifier alone.  A specifier that names a file is searched for
at the path that it has from the directory of its file: at this path as it is, if it has a known
extension, then with every extension added, then as an index file.  The first of these that is a
file is the module, the ones before it are the failed lookups, and the extension is the longest that
the name of the module ends in.  Any other specifier is unresolved. -/
theorem resolveModuleNames_spec (containing : String) (options : ResolutionOptions) (w : σ) :
    ∃ slot : Specifier → Resolution,
      (∀ (root : String) (files : List String) (specifiers : List Specifier),
        (((diskHost root files).resolveModuleNames specifiers containing options).run w).1 =
          .ok (specifiers.map slot)) ∧
      ∀ s : Specifier,
        (NamesFile s.text →
          let base := resolve (directory containing) s.text
          IsFirstMatch (OnDisk.disk w).isFile
            ((if hasExtension base then [base] else [])
              ++ options.extensions.map (fun e ↦ base ++ e.spelling)
              ++ options.extensions.map (fun e ↦ base ++ "/index" ++ e.spelling)) (slot s) ∧
          ∀ m, (slot s).module = some m → m.isExternalLibraryImport = false ∧
            Extension.of? m.fileName = some m.extension ∧ m.extension.IsLongest m.fileName) ∧
        (¬ NamesFile s.text → slot s = ⟨none, []⟩) := by
  refine ⟨resolveOne (OnDisk.disk w).isFile options containing,
    fun root files specifiers ↦ by rw [run_resolveModuleNames],
    fun s ↦ ⟨fun h ↦ ?_, fun h ↦ ?_⟩⟩
  · intro base
    rw [resolveOne, if_pos (namesFile_iff.2 h), ← isSome_of?_eq_hasExtension]
    refine ⟨firstModule_isFirstMatch _ _, fun m hm ↦ ⟨?_, extension_of_found hm⟩⟩
    rw [firstModule_module _ _ hm]
  · exact if_neg (mt namesFile_iff.1 h)

end

/-- Two directories: one with a declaration file, an index file and a file that imports, and one
with a library. -/
def declaringConsole : Cli.Console where
  disk := ⟨.dir [("p", .dir [("app.ts", .file .empty 0), ("index.ts", .file .empty 0),
    ("x.d.ts", .file .empty 0)]), ("q", .dir [("lib", .dir [("index.js", .file .empty 0)])])], "/",
    none⟩

/-- A module whose ending is longer than the extension it was found by, one in an index file, one
that is nowhere although it is named in full, and a package. -/
theorem resolveModuleNames_spec_of_declaration :
    let specifiers : List Specifier := [⟨"./x.d"⟩, ⟨"../q/lib"⟩, ⟨"/p/gone.js"⟩, ⟨"react"⟩]
    let library : Resolution := ⟨some ⟨"/q/lib/index.js", .js, false⟩,
      ["/q/lib.ts", "/q/lib.js", "/q/lib/index.ts"]⟩
    let answer : List Resolution := [⟨some ⟨"/p/x.d.ts", .dts, false⟩, []⟩, library,
      ⟨none, ["/p/gone.js", "/p/gone.js.ts", "/p/gone.js.js", "/p/gone.js/index.ts",
        "/p/gone.js/index.js"]⟩, ⟨none, []⟩]
    (((diskHost "/" []).resolveModuleNames specifiers "/p/app.ts" ⟨[.ts, .js]⟩).run
        declaringConsole).1 = .ok answer ∧
      Extension.IsLongest .dts "/p/x.d.ts" ∧
      IsFirstMatch (OnDisk.disk declaringConsole).isFile
        ["/q/lib.ts", "/q/lib.js", "/q/lib/index.ts", "/q/lib/index.js"] library := by
  intro specifiers library answer
  have hanswer : (((diskHost "/" []).resolveModuleNames specifiers "/p/app.ts" ⟨[.ts, .js]⟩).run
      declaringConsole).1 = .ok answer := by
    rfl
  obtain ⟨slot, hrun, hslot⟩ := resolveModuleNames_spec "/p/app.ts" ⟨[.ts, .js]⟩ declaringConsole
  have hslots : specifiers.map slot = answer :=
    Except.ok.inj ((hrun "/" [] specifiers).symm.trans hanswer)
  have hdeclaration : slot ⟨"./x.d"⟩ = .resolved ⟨"/p/x.d.ts", .dts, false⟩ :=
    (List.cons.inj hslots).1
  have hlibrary : slot ⟨"../q/lib"⟩ = library := (List.cons.inj (List.cons.inj hslots).2).1
  obtain ⟨-, hfound⟩ := (hslot ⟨"./x.d"⟩).1 ⟨"x.d", .inl rfl⟩
  obtain ⟨hfirst, -⟩ := (hslot ⟨"../q/lib"⟩).1 ⟨"q/lib", .inr (.inl rfl)⟩
  rw [hlibrary] at hfirst
  exact ⟨hanswer, (hfound _ (by rw [hdeclaration]; rfl)).2.2, hfirst⟩

/-- **A slash at the end of a relative specifier makes no difference, except to `.` and `..`.**
These two do not begin like the path of a file, so they are not looked for, while with a slash they
are.  The answers are still the same when there is nowhere to look. -/
theorem resolveModuleNames_append_slash {σ : Type} [Traced σ] [OnDisk σ] [LawfulWorld σ]
    (containing : String) (options : ResolutionOptions) (w : σ) :
    ∃ slot : Specifier → Resolution,
      (∀ (root : String) (files : List String) (specifiers : List Specifier),
        (((diskHost root files).resolveModuleNames specifiers containing options).run w).1 =
          .ok (specifiers.map slot)) ∧
      ∀ text : String, IsRelative text →
        (slot ⟨text ++ "/"⟩ = slot ⟨text⟩ ↔
          (text ≠ "." ∧ text ≠ "..") ∨
            (options.extensions = [] ∧
              hasExtension (resolve (directory containing) text) = false)) := by
  refine ⟨resolveOne (OnDisk.disk w).isFile options containing,
    fun root files specifiers ↦ by rw [run_resolveModuleNames], fun text h ↦ ?_⟩
  have hne : text ≠ "" := h.ne_empty
  rw [← candidates_eq_nil_iff, resolveOne, resolveOne, if_pos (namesFile_iff.2 h.append_slash),
    Path.resolve_append_slash _ hne]
  by_cases hbare : text = "." ∨ text = ".."
  · -- the bare specifier is not looked for
    have hpackage : ¬ namesFile text = true := by
      rcases hbare with rfl | rfl
      · decide
      · decide
    rw [if_neg hpackage, firstModule_eq_unresolved_iff, ← not_or]
    exact (or_iff_right (not_not_intro hbare)).symm
  · rw [if_pos (namesFile_iff.2 (h.cases.resolve_left hbare))]
    exact iff_of_true rfl (.inl (not_or.1 hbare))

/-- A directory with an index file is found with and without a slash. -/
theorem resolveModuleNames_append_slash_of_library :
    let library : Resolution := ⟨some ⟨"/q/lib/index.js", .js, false⟩,
      ["/q/lib.ts", "/q/lib.js", "/q/lib/index.ts"]⟩
    IsRelative "../q/lib" ∧
      (((diskHost "/" []).resolveModuleNames [⟨"../q/lib"⟩, ⟨"../q/lib/"⟩] "/p/app.ts"
        ⟨[.ts, .js]⟩).run declaringConsole).1 = .ok [library, library] := by
  intro library
  have hrelative : IsRelative "../q/lib" := by
    decide
  obtain ⟨slot, hrun, hslash⟩ :=
    resolveModuleNames_append_slash "/p/app.ts" ⟨[.ts, .js]⟩ declaringConsole
  have hbare : (((diskHost "/" []).resolveModuleNames [⟨"../q/lib"⟩] "/p/app.ts"
      ⟨[.ts, .js]⟩).run declaringConsole).1 = .ok [library] := by
    rfl
  have hslot : slot ⟨"../q/lib"⟩ = library :=
    (List.cons.inj (Except.ok.inj ((hrun "/" [] _).symm.trans hbare))).1
  have hsame : slot ⟨"../q/lib/"⟩ = slot ⟨"../q/lib"⟩ :=
    (hslash _ hrelative).2 (.inl (by decide))
  refine ⟨hrelative, ?_⟩
  rw [hrun, List.map_cons, List.map_singleton, hsame, hslot]

/-- The directory of the importing file itself is found with a slash, and is taken for a package
without one. -/
theorem resolveModuleNames_append_slash_ne :
    let bare : Resolution := ⟨none, []⟩
    let slashed : Resolution := ⟨some ⟨"/p/index.ts", .ts, false⟩,
      ["/p.ts", "/p.tsx", "/p.d.ts", "/p.js", "/p.jsx"]⟩
    IsRelative "." ∧
      (((diskHost "/" []).resolveModuleNames [⟨"."⟩, ⟨"./"⟩] "/p/app.ts" {}).run
        declaringConsole).1 = .ok [bare, slashed] ∧
      slashed ≠ bare := by
  intro bare slashed
  refine ⟨by decide, by rfl, by decide⟩

end HostOverlay.Workbench
