/-!
# Blank text

The Unicode property White_Space, which decides whether a tag is empty once its ends are trimmed.
-/

namespace OutboundWatch

def isBlank (c : Char) : Bool :=
  let n := c.toNat
  (9 ≤ n && n ≤ 13) || n == 0x20 || n == 0x85 || n == 0xa0 || n == 0x1680 ||
    (0x2000 ≤ n && n ≤ 0x200a) || n == 0x2028 || n == 0x2029 || n == 0x202f || n == 0x205f ||
    n == 0x3000

/-- Whether nothing is left of a text when white space is trimmed from its ends. -/
def isBlankText (s : String) : Bool := s.toList.all isBlank

end OutboundWatch
