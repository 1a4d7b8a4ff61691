/-!
# Ranges of characters

The classes of the Unicode standard are listed as ranges of code points, both ends included.
-/

namespace Retouch.Unicode

def inRanges (ranges : List (Nat × Nat)) (c : Char) : Bool :=
  ranges.any fun (first, last) => first ≤ c.toNat && c.toNat ≤ last

end Retouch.Unicode
