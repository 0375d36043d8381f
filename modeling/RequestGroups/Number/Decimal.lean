/-! # Decimals

Numbers in decimal notation, as they are read from text: an optional sign, digits with an optional
point among them, and an optional power of ten. The words for infinity and for a value that is no
number are read in any case. -/

namespace RequestGroups.Number

/-- The number `digits · 10 ^ exponent` with a sign, which a zero has too. -/
structure Decimal where
  negative : Bool
  digits : Nat
  exponent : Int
  deriving DecidableEq, Repr, Inhabited

/-- What a text says about a number. -/
inductive Numeral where
  | decimal (d : Decimal)
  | infinite (negative : Bool)
  | nan
  deriving DecidableEq, Repr, Inhabited

namespace Numeral

/-- The number that digits write; the characters have to be digits. -/
def valueOf (digits : List Char) : Nat := digits.foldl (fun n c => 10 * n + (c.toNat - 48)) 0

/-- Splits a sign off: whether it is a minus, and what follows. -/
def sign : List Char → Bool × List Char
  | '-' :: rest => (true, rest)
  | '+' :: rest => (false, rest)
  | cs => (false, cs)

/-- A whole number with an optional sign. -/
def whole? (cs : List Char) : Option Int :=
  let (negative, digits) := sign cs
  if digits.isEmpty || !digits.all Char.isDigit then none
  else some (if negative then -valueOf digits else valueOf digits)

/-- The power of ten at the end of a decimal; zero if nothing is left. -/
def power? : List Char → Option Int
  | [] => some 0
  | 'e' :: rest => whole? rest
  | 'E' :: rest => whole? rest
  | _ => none

/-- The digits at the start and the rest. -/
def spanDigits (cs : List Char) : List Char × List Char :=
  (cs.takeWhile Char.isDigit, cs.dropWhile Char.isDigit)

/-- The digits behind a point, if there is one, and the rest. -/
def fraction : List Char → List Char × List Char
  | '.' :: rest => spanDigits rest
  | cs => ([], cs)

/-- A decimal without its sign. There is a digit on one side of the point at least. -/
def decimal? (negative : Bool) (cs : List Char) : Option Decimal :=
  let (before, rest) := spanDigits cs
  let (behind, rest) := fraction rest
  if before.isEmpty && behind.isEmpty then none
  else (power? rest).map fun e => ⟨negative, valueOf (before ++ behind), e - behind.length⟩

/-- The words for infinity, in lower case. -/
def infinityWords : List String := ["inf", "infinity"]

/-- The word for a value that is no number, in lower case. -/
def nanWord : String := "nan"

/-- Reads a number. -/
def ofText? (text : String) : Option Numeral :=
  let (negative, cs) := sign text.toList
  let word := String.ofList (cs.map Char.toLower)
  if infinityWords.contains word then some (.infinite negative)
  else if word = nanWord then some .nan
  else (decimal? negative cs).map .decimal

end Numeral

end RequestGroups.Number
