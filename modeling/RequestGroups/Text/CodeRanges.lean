import RequestGroups.Text.Hex

/-! # Sets of characters as ranges of code points

The character classes of the Unicode standard are closed ranges of code points in ascending order.
They are written as numbers, or as texts of the form `41-5a aa b5` where no lemma asks which
characters there are.

* `CodeRanges.ofHex` reads such a text;
* `CodeRanges.contains` is membership of a character. -/

namespace RequestGroups.Text

/-- A set of code points, as closed ranges. -/
structure CodeRanges where
  ranges : List (Nat × Nat)

namespace CodeRanges

/-- Reads `41` as the range of one code point and `41-5a` as the range between the two. -/
def range (word : String) : Nat × Nat :=
  let low := word.toList.takeWhile (· != '-')
  let high := (word.toList.dropWhile (· != '-')).drop 1
  (Hex.value low, if high.isEmpty then Hex.value low else Hex.value high)

/-- Reads ranges that are separated by single spaces. -/
def ofHex (text : String) : CodeRanges where
  ranges := (text.splitOn " ").map range

/-- Whether the character lies in one of the ranges. -/
def contains (s : CodeRanges) (c : Char) : Bool :=
  s.ranges.any fun r => r.1 ≤ c.toNat && c.toNat ≤ r.2

end CodeRanges

end RequestGroups.Text
