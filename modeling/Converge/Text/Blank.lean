/-!
# Blank text

The characters with the White_Space property, and the texts made of nothing else.
-/

namespace Converge.Text

/-- Does the character have the White_Space property? -/
def isBlankChar (c : Char) : Bool :=
  let n := c.toNat
  (9 ≤ n && n ≤ 13) || n = 0x20 || n = 0x85 || n = 0xa0 || n = 0x1680 ||
    (0x2000 ≤ n && n ≤ 0x200a) || n = 0x2028 || n = 0x2029 || n = 0x202f || n = 0x205f ||
    n = 0x3000

/-- Is the text empty once white space is taken off both its ends? -/
def isBlank (s : String) : Bool := s.toList.all isBlankChar

end Converge.Text
