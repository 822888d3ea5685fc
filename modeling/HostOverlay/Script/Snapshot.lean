import HostOverlay.Text.Offset

/-!
# Snapshots

A snapshot is the text of a script as the checker sees it, fixed at the moment it was asked for.
-/

set_option autoImplicit false

namespace HostOverlay

/-- The text of a script at one moment. -/
structure Snapshot where
  text : String
  deriving DecidableEq, Repr, Inhabited

namespace Snapshot

/-- The length of the text in bytes. -/
def size (s : Snapshot) : Nat :=
  Text.byteSize s.text.toList

/-- Has the snapshot no text? -/
def isEmpty (s : Snapshot) : Bool :=
  s.text.toList.isEmpty

/-- The text between two byte offsets, clamped to the snapshot. -/
def part (s : Snapshot) (start stop : Nat) : String :=
  Text.slice s.text start stop

end Snapshot

end HostOverlay
