/-!
# White space

The characters with the Unicode property of white space, and trimming.
-/

namespace TripWatch.Text

/-- Whether a character has the Unicode property of white space. -/
def isSpace (c : Char) : Bool :=
  let n := c.toNat
  decide ((0x09 ≤ n ∧ n ≤ 0x0D) ∨ n = 0x20 ∨ n = 0x85 ∨ n = 0xA0 ∨ n = 0x1680 ∨
    (0x2000 ≤ n ∧ n ≤ 0x200A) ∨ n = 0x2028 ∨ n = 0x2029 ∨ n = 0x202F ∨ n = 0x205F ∨ n = 0x3000)

/-- A text without the white space in front of it. -/
def trimLeft (cs : List Char) : List Char := cs.dropWhile isSpace

/-- A text without the white space behind it. -/
def trimRight (cs : List Char) : List Char := (cs.reverse.dropWhile isSpace).reverse

/-- A text without the white space on either side. -/
def trim (cs : List Char) : List Char := trimRight (trimLeft cs)

end TripWatch.Text
