/-!
# Settings

Which edits are refused. Both checks are off by default.
-/

namespace Retouch

structure Settings where
  /-- Refuse an edit that overlaps the one before it. -/
  rejectOverlapping : Bool := false
  /-- Refuse an edit with a bound that the text does not have. -/
  rejectOutOfBounds : Bool := false
deriving DecidableEq

namespace Settings

def lenient : Settings := {}

def strict : Settings := ⟨true, true⟩

end Settings

end Retouch
