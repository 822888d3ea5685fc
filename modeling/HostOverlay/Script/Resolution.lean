import HostOverlay.Script.Kind
import HostOverlay.Path.Normal

/-!
# Resolved imports

A host resolves the imports of a file in batches: a list of specifiers goes in, a list of
`Resolution`s of the same length comes out.  This module holds the values of such an exchange and
the redirection of foreign specifiers.

`redirect` overwrites exactly the slots whose specifier is foreign.  A batch of the wrong length is
refused as a whole, so that no specifier is ever paired with the answer to another one.
-/

set_option autoImplicit false

namespace HostOverlay

/-- An import specifier as it is written in a source file. -/
structure Specifier where
  text : String
  deriving DecidableEq, Repr, Inhabited

/-- The module that a host loads for an import. -/
structure ResolvedModule where
  fileName : String
  extension : Extension
  isExternalLibraryImport : Bool
  deriving DecidableEq, Repr, Inhabited

/-- The outcome of resolving one specifier. -/
structure Resolution where
  /-- The module found; `none` when the import is unresolved. -/
  module : Option ResolvedModule
  /-- The places looked at without success, in order. -/
  failedLookups : List String
  deriving DecidableEq, Repr, Inhabited

namespace Resolution

/-- A resolution to `m` at the first attempt. -/
def resolved (m : ResolvedModule) : Resolution := ⟨some m, []⟩

/-- No module was found at any of the given places. -/
def unresolved (failedLookups : List String) : Resolution := ⟨none, failedLookups⟩

end Resolution

/-- What a host is told along with a batch of specifiers. -/
structure ResolutionOptions where
  /-- The extensions tried, in order, behind a relative specifier. -/
  extensions : List Extension := [.ts, .tsx, .dts, .js, .jsx]
  deriving DecidableEq, Repr, Inhabited

/-! ## Redirecting foreign specifiers -/

/-- The declaration module that a foreign specifier in `containing` stands for: the file it names,
seen from the directory of `containing`.  Nothing is looked up. -/
def foreignModule (specifier : Specifier) (containing : String) : ResolvedModule where
  fileName := Path.resolve (Path.directory containing) specifier.text
  extension := .dts
  isExternalLibraryImport := false

/-- The resolution of one slot, given what the host found for it. -/
def redirectOne (containing : String) (specifier : Specifier) (found : Resolution) : Resolution :=
  if isForeign specifier.text then .resolved (foreignModule specifier containing) else found

/-- A batch of answers whose length is not that of its specifiers. -/
structure LengthMismatch where
  expected : Nat
  actual : Nat
  deriving DecidableEq, Repr, Inhabited

/-- The host's answers to `specifiers`, with every foreign slot overwritten. -/
def redirect (specifiers : List Specifier) (containing : String) (found : List Resolution) :
    Except LengthMismatch (List Resolution) :=
  if found.length = specifiers.length then
    .ok (List.zipWith (redirectOne containing) specifiers found)
  else .error ⟨specifiers.length, found.length⟩

end HostOverlay
