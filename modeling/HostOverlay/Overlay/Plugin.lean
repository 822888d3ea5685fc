import HostOverlay.Overlay.Basic

/-!
# Attaching the layer to projects

A plugin is built once and attached to any number of projects.  It is built from settings that are
applied one after the other, the last one for a capability winning; what is never set is stock.
When it attaches to a project, the entry for it in the project's configuration may replace the
stock capabilities for that project alone.
-/

set_option autoImplicit false

namespace HostOverlay

variable {σ : Type}

/-- A plugin, ready to be attached. -/
structure Plugin (σ : Type) where
  factory : ServiceFactory σ
  storage : Storage σ
  synthesizer : Synthesizer σ
  resolver : DefinitionResolver σ

/-- The host and the service that a project uses in place of its own. -/
structure Attachment (σ : Type) where
  host : Host σ
  service : Service σ

namespace Plugin

/-! ## Building -/

/-- One choice made while a plugin is built. -/
inductive Choice (σ : Type) where
  /-- The stock capabilities with the given settings. -/
  | settings (s : Settings)
  | storage (s : Storage σ)
  | synthesizer (s : Synthesizer σ)
  | resolver (r : DefinitionResolver σ)

/-- The capabilities chosen so far. -/
structure Builder (σ : Type) where
  storage : Option (Storage σ) := none
  synthesizer : Option (Synthesizer σ) := none
  resolver : Option (DefinitionResolver σ) := none

/-- Make one more choice. -/
def Builder.choose [Traced σ] (b : Builder σ) : Choice σ → Builder σ
  | .settings s =>
    { b with
      synthesizer := some (.placeholder s.placeholderSource)
      resolver := some (.fixed s.definitionFile) }
  | .storage s => { b with storage := some s }
  | .synthesizer s => { b with synthesizer := some s }
  | .resolver r => { b with resolver := some r }

/-- The plugin that the given choices make, in order, over a way to build services. -/
def build [Traced σ] [OnDisk σ] (factory : ServiceFactory σ) (choices : List (Choice σ)) :
    Plugin σ :=
  let b := choices.foldl Builder.choose ({} : Builder σ)
  let stock : Settings := {}
  { factory
    storage := b.storage.getD .onDisk
    synthesizer := b.synthesizer.getD (.placeholder stock.placeholderSource)
    resolver := b.resolver.getD (.fixed stock.definitionFile) }

/-! ## Attaching -/

/-- The capabilities for a project with the given configuration entry: those of the plugin, where
the entry does not replace them. -/
def capabilitiesFor [Traced σ] (p : Plugin σ) (entry : Json) :
    Except DecodeError (Synthesizer σ × DefinitionResolver σ) :=
  match entry with
  | .null => .ok (p.synthesizer, p.resolver)
  | entry => do
    let s ← Settings.ofEntry entry
    let synthesizer :=
      if (entry.get? Settings.placeholderKey).isSome then .placeholder s.placeholderSource
      else p.synthesizer
    let resolver :=
      if (entry.get? Settings.definitionKey).isSome then .fixed s.definitionFile else p.resolver
    return (synthesizer, resolver)

/-- Attach to a project with the given host and configuration entry. -/
def attach [Traced σ] [OnDisk σ] (p : Plugin σ) (project : Project σ) (inner : Host σ)
    (entry : Json) : Request σ (Attachment σ) := do
  let disk : Disk ← ExceptT.lift getDisk
  let root ← Request.ofIo (Context.rootOf disk.workingDirectory project.name)
  let context : Context σ := ⟨root, project.logger⟩
  Request.trace .info "tzen_bridge::plugin"
    ("Attaching to project " ++ project.name ++ " (root " ++ root ++ ")")
  match p.capabilitiesFor entry with
  | .error cause => throw (.config cause)
  | .ok (synthesizer, resolver) =>
    let host := Overlay.host inner p.storage synthesizer
    return ⟨host, Overlay.service (p.factory host) context resolver⟩

/-- The foreign files that the host of a project has to track, as they are now. -/
def externalFiles (project : Project σ) : StateM σ (List String) :=
  return HostOverlay.externalFiles (← project.fileNames)

end Plugin

end HostOverlay
