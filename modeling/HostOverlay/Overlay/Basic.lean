import HostOverlay.Overlay.Capability

/-!
# The layer over a host and its service

`Overlay.host` stands in for a host.  It answers three questions about foreign files itself: their
kind is that of a typed source, their snapshot is synthesized when storage has them, and imports of
them resolve to declaration modules.  `Overlay.service` stands in for a service and answers where
definitions are.  Every other question goes to the party underneath, and its answer comes back as it
is.
-/

set_option autoImplicit false

namespace HostOverlay

variable {σ : Type}

namespace Overlay

/-- The host `inner` with foreign files made readable. -/
def host [Traced σ] (inner : Host σ) (storage : Storage σ) (synthesizer : Synthesizer σ) :
    Host σ where
  currentDirectory := inner.currentDirectory
  scriptFileNames := inner.scriptFileNames
  scriptVersion := inner.scriptVersion
  scriptKind path := if isForeign path then pure .ts else inner.scriptKind path
  scriptSnapshot path :=
    if isForeign path then do
      match ← storage.present path with
      | .error e => throw (.io e)
      | .ok true =>
        Request.trace .debug "tzen_bridge::plugin::host_interceptor"
          ("Serving synthesized snapshot for " ++ path)
        return some (← synthesizer.synthesize path)
      | .ok false => inner.scriptSnapshot path
    else inner.scriptSnapshot path
  resolveModuleNames specifiers containing options := do
    let found ← inner.resolveModuleNames specifiers containing options
    match redirect specifiers containing found with
    | .ok resolutions => return resolutions
    | .error cause => throw (.resolutionMismatch cause)
  fileExists := inner.fileExists
  fileContent := inner.fileContent

/-- The line that a definition request leaves in the log of the project. -/
def definitionLine (path : String) : String :=
  "[tzen-bridge] [tzenFilePath] " ++ path

/-- The service `inner` with definitions redirected. -/
def service (inner : Service σ) (context : Context σ) (resolver : DefinitionResolver σ) :
    Service σ where
  definition file position := do
    let target : String ← resolver.canonicalPath context
    context.logger (definitionLine target)
    return some (← resolver.resolve context file position)
  quickInfo := inner.quickInfo
  programFileNames := inner.programFileNames

end Overlay

/-- The foreign files among the files of a project, in their order: a host has to be told of them,
since it would not track them by itself. -/
def externalFiles (fileNames : List String) : List String :=
  fileNames.filter isForeign

end HostOverlay
