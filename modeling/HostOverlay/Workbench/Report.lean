import HostOverlay.Script.Resolution
import HostOverlay.Text.Table

/-!
# The table of resolutions

One row for each specifier: what it says, the file it resolves to or how many places were looked at,
and the extension the module is loaded as.
-/

set_option autoImplicit false

namespace HostOverlay.Workbench

/-- A row of the table of resolutions. -/
structure ResolutionRow where
  specifier : String
  resolved : String
  extension : String
  deriving DecidableEq, Repr, Inhabited

/-- The row of a specifier and its resolution. -/
def ResolutionRow.of (specifier : String) (r : Resolution) : ResolutionRow :=
  match r.module with
  | some m => ⟨specifier, m.fileName, m.extension.spelling⟩
  | none =>
    ⟨specifier, "unresolved (" ++ toString r.failedLookups.length ++ " lookups)", "-"⟩

/-- The cells of a row. -/
def ResolutionRow.cells (r : ResolutionRow) : List String := [r.specifier, r.resolved, r.extension]

/-- The titles of the columns. -/
def resolutionHeader : List String := ["Specifier", "Resolved", "Extension"]

/-- The table of the given rows; there is none without rows. -/
def resolutionTable (rows : List ResolutionRow) : String :=
  if rows.isEmpty then "" else Text.Table.render resolutionHeader (rows.map ResolutionRow.cells)

end HostOverlay.Workbench
