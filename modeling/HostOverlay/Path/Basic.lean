/-!
# Paths

A path is the text a user or a host writes: `/`-separated **segments**, absolute when it starts with
`/`.  Nothing here looks at a disk.

* `segments` cuts a path at its slashes, `joinSegments` puts it together again.
* `components` reads a path as a list of steps: empty segments and `.` are no steps at all, except
  that a relative path may begin with one `.`.
* `join` puts one path behind another; an absolute second path replaces the first.
* `parent?` is the path of the directory a path lies in, spelt as the path itself spells it.
* `absolute?` makes a path absolute against a working directory without folding `..`.
-/

set_option autoImplicit false

namespace HostOverlay.Path

/-! ## Segments -/

/-- The `/`-separated pieces of a path, empty ones included; there is always at least one. -/
def segments (p : String) : List String :=
  (p.toList.splitOn '/').map String.ofList

/-- Segments with one slash between them. -/
def joinSegments (ss : List String) : String :=
  String.ofList (List.intercalate ['/'] (ss.map String.toList))

/-- A path is its segments with the slashes put back. -/
theorem joinSegments_segments (p : String) : joinSegments (segments p) = p := by
  have h : (segments p).map String.toList = p.toList.splitOn '/' := by
    simp [segments, List.map_map, Function.comp_def]
  rw [joinSegments, h, List.intercalate_splitOn, String.ofList_toList]

/-- Segments without slashes can be read back from the path they make. -/
theorem segments_joinSegments {ss : List String} (hne : ss ≠ [])
    (h : ∀ s ∈ ss, '/' ∉ s.toList) : segments (joinSegments ss) = ss := by
  have hsplit : (joinSegments ss).toList.splitOn '/' = ss.map String.toList := by
    rw [joinSegments, String.toList_ofList]
    refine List.splitOn_intercalate '/' ?_ (by simpa using hne)
    intro l hl
    obtain ⟨s, hs, rfl⟩ := List.mem_map.1 hl
    exact h s hs
  rw [segments, hsplit, List.map_map]
  simp [Function.comp_def]

/-- Does the path start at the root? -/
def isAbsolute (p : String) : Bool :=
  ['/'].isPrefixOf p.toList

/-- Does the path end in a slash? -/
def hasTrailingSlash (p : String) : Bool :=
  ['/'].isSuffixOf p.toList

/-- An empty segment and `.` both stay where they are. -/
def isStay (s : String) : Bool :=
  s = "" || s = "."

/-! ## Components -/

/-- One step of a path. -/
inductive Component where
  /-- The root directory, first step of an absolute path. -/
  | root
  /-- A leading `.` of a relative path. -/
  | current
  /-- The directory above, `..`. -/
  | parent
  /-- The entry of the given name. -/
  | name (n : String)
  deriving DecidableEq, Repr, Inhabited

/-- The step that a segment other than an empty one and `.` stands for. -/
def Component.ofSegment (s : String) : Component :=
  if s = ".." then .parent else .name s

/-- The steps of a list of segments, with the segments that stay left out. -/
def steps (ss : List String) : List Component :=
  (ss.filter fun s => !isStay s).map Component.ofSegment

/-- The steps of a path. -/
def components (p : String) : List Component :=
  match segments p with
  | [] => []
  | s :: rest =>
    if isAbsolute p then .root :: steps rest
    else if s = "." then .current :: steps rest
    else steps (s :: rest)

/-! ## Joining -/

/-- `other` behind `base`, with one slash between them; an absolute `other` replaces `base`. -/
def join (base other : String) : String :=
  if isAbsolute other then other
  else if base = "" || hasTrailingSlash base then base ++ other
  else base ++ "/" ++ other

/-! ## The directory a path lies in -/

/-- Drop the segments at the end that stay. -/
def trimStays (ss : List String) : List String :=
  (ss.reverse.dropWhile isStay).reverse

/-- The path of the directory that `p` lies in: `p` without its last step, and without what stays
in front of that step.  `none` for the root and for a path without steps. -/
def parent? (p : String) : Option String :=
  match segments p with
  | [] => none
  | s :: rest =>
    if isAbsolute p then
      match trimStays rest with
      | [] => none
      | body => some ("/" ++ joinSegments (trimStays body.dropLast))
    else if s = "." then
      match trimStays rest with
      | [] => some ""
      | body => some (joinSegments ("." :: trimStays body.dropLast))
    else
      match trimStays (s :: rest) with
      | [] => none
      | body => some (joinSegments (trimStays body.dropLast))

/-- The directory part of a file's path, empty for a bare name and for the root. -/
def directory (p : String) : String :=
  (parent? p).getD ""

/-! ## Making a path absolute -/

/-- How a step is spelt; the root and a leading `.` are spelt by the path they begin. -/
def Component.spelling : Component → String
  | .root => ""
  | .current => ""
  | .parent => ".."
  | .name n => n

/-- Where an absolute path begins: two slashes exactly are kept as they are, any other number is
one slash. -/
def anchor (p : String) : String :=
  match p.toList with
  | '/' :: '/' :: '/' :: _ => "/"
  | '/' :: '/' :: _ => "//"
  | _ => "/"

/-- The path `p` seen from the directory `cwd`: segments that stay are dropped, `..` and a slash at
the end are kept.  The empty path names nothing and has no absolute form. -/
def absolute? (cwd p : String) : Option String :=
  if p = "" then none
  else
    let start := if isAbsolute p then anchor p else cwd
    let named := (components p).filter fun c => c != .root && c != .current
    let whole := named.foldl (fun acc c => join acc c.spelling) start
    some (if hasTrailingSlash p && !hasTrailingSlash whole then whole ++ "/" else whole)

end HostOverlay.Path
