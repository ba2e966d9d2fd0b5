import Banter.Bisect

namespace Banter.Text

/-- The characters between an odd and the next even boundary. -/
structure CharSet where
  bounds : Array Nat

namespace CharSet

def crossed (set : CharSet) (point : Nat) : Nat :=
  Bisect.count (fun i => set.bounds[i]?.any (· ≤ point)) set.bounds.size

/-- A character belongs when an odd number of boundaries lie at or below it. -/
def contains (set : CharSet) (c : Char) : Bool :=
  set.crossed c.toNat % 2 == 1

end CharSet

end Banter.Text
