import HostOverlay.Overlay.Context
import HostOverlay.Settings

/-!
# What stands in for a compiler of foreign files

Two capabilities hide that there is no compiler for foreign files yet.  A **synthesizer** makes the
text that a checker sees in place of a foreign file; the stock one gives every file the same
declaration.  A **definition resolver** says where "go to definition" leads; the stock one always
leads to the same span of one file of the project.
-/

set_option autoImplicit false

namespace HostOverlay

variable {σ : Type}

/-- Makes the snapshot of a foreign file that is there. -/
structure Synthesizer (σ : Type) where
  synthesize : String → Request σ Snapshot

/-- The same text for every foreign file. -/
def Synthesizer.placeholder [Traced σ] (source : String) : Synthesizer σ where
  synthesize path := do
    Request.trace .debug "tzen_bridge::plugin::synthesis"
      ("Synthesizing placeholder declaration for " ++ path)
    return ⟨source⟩

/-- Says where the definitions of symbols are. -/
structure DefinitionResolver (σ : Type) where
  /-- The foreign file that requests about a project are redirected into. -/
  canonicalPath : Context σ → StateM σ String
  /-- The definitions for a position in a file. -/
  resolve : Context σ → String → Nat → Request σ DefinitionAnswer

namespace DefinitionResolver

/-- The span that a redirected definition highlights. -/
def fixedSpan : TextSpan := ⟨5, 5⟩

/-- The path of `file` seen from the root of a project. -/
def pathIn (file : String) (c : Context σ) : String :=
  Path.resolve c.root file

/-- The one definition that every request leads to. -/
def fixedDefinition (path : String) : Definition where
  fileName := path
  span := fixedSpan
  kind := .unknown
  name := ""
  containerKind := .unknown
  containerName := ""

/-- Every request leads to the same span of `file`. -/
def fixed (file : String) : DefinitionResolver σ where
  canonicalPath c := return pathIn file c
  resolve c _ _ := return ⟨[fixedDefinition (pathIn file c)], ⟨0, 0⟩⟩

theorem canonicalPath_fixed (file : String) (c : Context σ) (w : σ) :
    (fixed file).canonicalPath c w = (pathIn file c, w) := rfl

end DefinitionResolver

end HostOverlay
