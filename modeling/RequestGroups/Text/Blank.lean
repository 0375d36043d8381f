import RequestGroups.Text.CodeRanges

/-! # White space

The class `White_Space` of Unicode. Source text also treats the two direction marks as white
space. -/

namespace RequestGroups.Text

/-- The white space characters beyond ASCII. -/
def blankRanges : CodeRanges where
  ranges := [(0x85, 0x85), (0xa0, 0xa0), (0x1680, 0x1680), (0x2000, 0x200a), (0x2028, 0x2029),
    (0x202f, 0x202f), (0x205f, 0x205f), (0x3000, 0x3000)]

/-- Whether the character is white space. -/
def isBlank (c : Char) : Bool :=
  if c.toNat < 128 then c == ' ' || (9 ≤ c.toNat && c.toNat ≤ 13) else blankRanges.contains c

/-- Whether the character separates tokens: white space or a direction mark. -/
def isSeparator (c : Char) : Bool :=
  isBlank c || c.toNat == 0x200e || c.toNat == 0x200f

end RequestGroups.Text
