import HostOverlay.Cli.Console
import HostOverlay.Proofs.Overlay.Host
import HostOverlay.Proofs.Path.Fold
import HostOverlay.Proofs.Script.Batch
import HostOverlay.Workbench.Host

/-!
# Imports of foreign files lead to foreign files

The layer decides by its text whether a specifier is foreign, and redirects it to a path that has
been joined and folded.  Later it decides by the text of *that* path whether the file is one of its
own.  The two decisions must not differ: otherwise an import would be redirected to a file whose
kind and snapshot then come from the host, which cannot read it.

They do not differ, because the last segment of a foreign specifier is a name
(`Path.exists_name_of_isForeign`), a name at the end of a path survives folding
(`Path.getLast?_segments_resolve`), and being foreign is a matter of the last segment
(`Path.isForeign_of_getLast?`).
-/

set_option autoImplicit false

namespace HostOverlay

/-- A foreign specifier leads to a path that ends in the same name. -/
theorem getLast?_segments_foreignModule {specifier : Specifier}
    (h : isForeign specifier.text = true) (containing : String) :
    (Path.segments (foreignModule specifier containing).fileName).getLast? =
      (Path.segments specifier.text).getLast? := by
  obtain ⟨n, hlast, hn⟩ := Path.exists_name_of_isForeign h
  rw [hlast, foreignModule, Path.getLast?_segments_resolve _ hlast hn]

/-- Being foreign is kept by redirection. -/
theorem isForeign_foreignModule {specifier : Specifier} (h : isForeign specifier.text = true)
    (containing : String) : isForeign (foreignModule specifier containing).fileName = true := by
  obtain ⟨n, hlast, -⟩ := Path.exists_name_of_isForeign h
  have hlast' := (getLast?_segments_foreignModule h containing).trans hlast
  rw [Path.isForeign_of_getLast? hlast', ← Path.isForeign_of_getLast? hlast, h]

/-- The last step of the path that a foreign specifier leads to. -/
theorem getLast?_components_foreignModule {specifier : Specifier}
    (h : isForeign specifier.text = true) (containing : String) :
    (Path.components (foreignModule specifier containing).fileName).getLast? =
      (Path.segments specifier.text).getLast?.map .name := by
  obtain ⟨n, hlast, hn⟩ := Path.exists_name_of_isForeign h
  have hlast' := (getLast?_segments_foreignModule h containing).trans hlast
  rw [hlast, Path.getLast?_components hlast' hn, Option.map_some]

namespace Overlay

variable {σ : Type} [Traced σ]

/-- A batch that comes back has a redirected module in each foreign slot. -/
theorem getElem?_foreign_slot {inner : Host σ} {storage : Storage σ} {synthesizer : Synthesizer σ}
    {specifiers : List Specifier} {containing : String} {options : ResolutionOptions} {w w' : σ}
    {resolutions : List Resolution}
    (hrun : ((host inner storage synthesizer).resolveModuleNames specifiers containing
      options).run w = (.ok resolutions, w')) {i : Nat} {specifier : Specifier}
    (hi : specifiers[i]? = some specifier) (h : isForeign specifier.text = true) :
    resolutions[i]? = some (.resolved (foreignModule specifier containing)) := by
  rw [resolveModuleNames_run inner storage synthesizer rfl, Prod.mk.injEq] at hrun
  obtain ⟨found, hfound⟩ := exists_of_redirected hrun.1
  obtain ⟨-, hslots⟩ := redirect_eq_ok_iff_isRedirected.1 hfound
  obtain ⟨m, hm, rfl, -, -⟩ := hslots.foreign i specifier hi h
  exact hm

/-- **What the layer redirects to, it serves.**  The path that a foreign specifier leads to is
foreign and ends in the name that the specifier ends in.  So in every batch that comes back, the
file in a foreign slot is of the typed kind, and no host is asked about that, and its snapshot is
the synthesizer's whenever storage has the file. -/
theorem redirected_isServed (specifier : Specifier) (containing : String)
    (h : isForeign specifier.text = true) :
    (isForeign (foreignModule specifier containing).fileName = true ∧
      (Path.components (foreignModule specifier containing).fileName).getLast? =
        (Path.segments specifier.text).getLast?.map .name) ∧
    ∀ (inner : Host σ) (storage : Storage σ) (synthesizer : Synthesizer σ)
      (specifiers : List Specifier) (options : ResolutionOptions) (w w' : σ)
      (resolutions : List Resolution),
      ((host inner storage synthesizer).resolveModuleNames specifiers containing options).run w =
        (.ok resolutions, w') →
      ∀ i : Nat, specifiers[i]? = some specifier →
        ∃ m, resolutions[i]? = some (.resolved m) ∧
          (host inner storage synthesizer).scriptKind m.fileName = pure .ts ∧
          ∀ v v', storage.present m.fileName v = (.ok true, v') →
            ((host inner storage synthesizer).scriptSnapshot m.fileName).run v =
              (some <$> synthesizer.synthesize m.fileName).run
                (Traced.emit (servingNote m.fileName) v') := by
  have hforeign := isForeign_foreignModule h containing
  refine ⟨⟨hforeign, getLast?_components_foreignModule h containing⟩, ?_⟩
  intro inner storage synthesizer specifiers options w w' resolutions hrun i hi
  refine ⟨foreignModule specifier containing, getElem?_foreign_slot hrun hi h,
    scriptKind_foreign _ _ _ hforeign, ?_⟩
  intro v v' hpresent
  exact scriptSnapshot_present hforeign hpresent

/-- A console over an empty disk. -/
def bareConsole : Cli.Console := { disk := ⟨.emptyDir, "/", none⟩ }

/-- The layer over a host that finds nothing, with storage that has every file. -/
def bareLayer : Host Cli.Console :=
  host (Workbench.diskHost "/" []) ⟨fun _ ↦ pure (.ok true)⟩ (.placeholder "export type A = 1;")

/-- A specifier with every kind of detour in it, whose name has nothing but dots in front of the
ending. -/
theorem redirected_isServed_of_detours :
    isForeign "..//lib/./x/../...tzen" = true ∧
      (bareLayer.resolveModuleNames [⟨"react"⟩, ⟨"..//lib/./x/../...tzen"⟩] "src/app.ts" {}).run
          bareConsole =
        (.ok [.unresolved [], .resolved ⟨"lib/...tzen", .dts, false⟩], bareConsole) ∧
      isForeign "lib/...tzen" = true ∧
      bareLayer.scriptKind "lib/...tzen" = pure .ts ∧
      (bareLayer.scriptSnapshot "lib/...tzen").run bareConsole =
        (.ok (some ⟨"export type A = 1;"⟩), bareConsole) := by
  have hforeign : isForeign "..//lib/./x/../...tzen" = true := by decide
  have hrun : (bareLayer.resolveModuleNames [⟨"react"⟩, ⟨"..//lib/./x/../...tzen"⟩] "src/app.ts"
      {}).run bareConsole =
        (.ok [.unresolved [], .resolved ⟨"lib/...tzen", .dts, false⟩], bareConsole) := by rfl
  obtain ⟨⟨hserved, -⟩, hslots⟩ := redirected_isServed (σ := Cli.Console)
    ⟨"..//lib/./x/../...tzen"⟩ "src/app.ts" hforeign
  obtain ⟨m, hm, hkind, hsnapshot⟩ := hslots _ _ _ _ _ _ _ _ hrun 1 rfl
  obtain rfl : ⟨"lib/...tzen", .dts, false⟩ = m := by simpa [Resolution.resolved] using hm
  exact ⟨hforeign, hrun, hserved, hkind, hsnapshot bareConsole bareConsole rfl⟩

end Overlay

end HostOverlay
