import TripWatch.Text.Runs
import TripWatch.Text.WordTable

/-!
# Characters of words

Letters and numbers of all scripts.
-/

namespace TripWatch.Text

/-- Whether a character is a letter or a number. -/
def isWord (c : Char) : Bool := if c.toNat < 128 then c.isAlphanum else inRuns wordRuns c

end TripWatch.Text
