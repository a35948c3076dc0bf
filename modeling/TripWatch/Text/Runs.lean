/-!
# Runs of code points

A set of characters given by the runs of code points that it consists of.
-/

namespace TripWatch.Text

/-- Whether a character lies in one of the runs. -/
def inRuns (runs : Array (Nat × Nat)) (c : Char) : Bool :=
  runs.any fun (first, last) => decide (first ≤ c.toNat ∧ c.toNat ≤ last)

end TripWatch.Text
