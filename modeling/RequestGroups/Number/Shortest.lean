import RequestGroups.Number.Binary

/-! # Shortest decimals

A number of a format is written with the fewest digits that are read back as the same number.

* `Format.digits` are these digits: the coarsest grid of powers of ten that meets the interval of
  reals that round to the number, and on it the point nearest to the number, of two the even one;
* `Layout` says which numbers are written without a power of ten, and `Format.text` writes them. -/

namespace RequestGroups.Number

/-! ### Digits -/

/-- The reals that round to a positive number, in units of `2 ^ scale`. -/
structure Neighbourhood where
  low : Nat
  centre : Nat
  high : Nat
  /-- Whether the ends round to the number, too. -/
  closed : Bool
  scale : Int
  deriving Repr

/-- The reals that round to a positive number of a format. They reach half a step up and half a step
down, where the step below a power of two is half as wide, unless the exponent is least. A tie goes
to the even mantissa. -/
def Format.neighbourhood (f : Format) (x : Binary) : Neighbourhood where
  low := 4 * x.mantissa -
    if x.mantissa = Nat.pow 2 (f.precision - 1) ∧ f.least < x.exponent then 1 else 2
  centre := 4 * x.mantissa
  high := 4 * x.mantissa + 2
  closed := x.mantissa % 2 == 0
  scale := x.exponent - 2

namespace Neighbourhood

/-- The size of a step of the grid `10 ^ grid`, over a denominator that it has in common with the
size of a unit. -/
def step (i : Neighbourhood) (grid : Int) : Nat :=
  Nat.pow 10 grid.toNat * Nat.pow 2 (-i.scale).toNat

/-- The size of a unit, over the same denominator. -/
def unit (i : Neighbourhood) (grid : Int) : Nat :=
  Nat.pow 2 i.scale.toNat * Nat.pow 10 (-grid).toNat

/-- Whether a point of a grid rounds to the number. -/
def contains (i : Neighbourhood) (grid : Int) (point : Nat) : Bool :=
  let p := point * i.step grid
  let low := i.low * i.unit grid
  let high := i.high * i.unit grid
  if i.closed then low ≤ p && p ≤ high else low < p && p < high

/-- The point of a grid nearest to the number among those that round to it. Only the points on both
sides of the number come into question. -/
def nearest? (i : Neighbourhood) (grid : Int) : Option Nat :=
  let size := i.centre * i.unit grid
  let best := roundDiv size (i.step grid)
  let below := size / i.step grid
  [best, below, below + 1].find? (i.contains grid)

/-- The first of the grids from `10 ^ (finest + steps)` down to `10 ^ finest` that has a point which
rounds to the number, with this point. -/
def coarsest (i : Neighbourhood) (finest : Int) : Nat → Option (Nat × Int)
  | 0 => (i.nearest? finest).map (·, finest)
  | steps + 1 =>
    let grid := finest + (steps + 1)
    match i.nearest? grid with
    | some point => some (point, grid)
    | none => i.coarsest finest steps

/-- A grid whose steps are at most one unit wide, so that it has a point that rounds to the
number. -/
def finest (i : Neighbourhood) : Int := min 0 i.scale

/-- A grid whose first point is beyond the number. -/
def widest (i : Neighbourhood) : Int := ((i.high.log2 + 1 + i.scale).toNat / 3 : Nat) + 1

/-- The shortest decimal that rounds to the number. -/
def shortest (i : Neighbourhood) : Nat × Int :=
  (i.coarsest i.finest (i.widest - i.finest).toNat).getD (0, 0)

end Neighbourhood

/-- The shortest decimal that is read back as a number of a format. -/
def Format.shortest (f : Format) (x : Binary) : Decimal :=
  if x.mantissa = 0 then ⟨x.negative, 0, 0⟩
  else
    let (digits, exponent) := (f.neighbourhood x).shortest
    ⟨x.negative, digits, exponent⟩

/-! ### Text -/

/-- The powers of ten of the first digit for which numbers are written without an exponent. -/
structure Layout where
  least : Int
  most : Int
  deriving Repr

/-- A number of zeros. -/
def zeros (n : Int) : List Char := List.replicate n.toNat '0'

namespace Layout

/-- Digits with a point behind the first `before`, and a digit on both sides of it. -/
def positional (digits : List Char) (before : Int) : List Char :=
  if before ≤ 0 then '0' :: '.' :: zeros (-before) ++ digits
  else if digits.length ≤ before then digits ++ zeros (before - digits.length) ++ ['.', '0']
  else digits.take before.toNat ++ '.' :: digits.drop before.toNat

/-- Digits with a point behind the first one, unless it is the only one, and a power of ten with its
sign. -/
def scientific (digits : List Char) (power : Int) : List Char :=
  let point := if digits.length ≤ 1 then [] else ['.']
  let sign := if power < 0 then '-' else '+'
  digits.take 1 ++ point ++ digits.drop 1 ++ 'e' :: sign :: Nat.toDigits 10 power.natAbs

/-- Writes a decimal without its sign. -/
def magnitude (l : Layout) (x : Decimal) : List Char :=
  if x.digits = 0 then ['0', '.', '0'] else
  let digits := Nat.toDigits 10 x.digits
  let power := x.exponent + digits.length - 1
  if l.least ≤ power ∧ power ≤ l.most then positional digits (power + 1)
  else scientific digits power

/-- Writes a decimal. -/
def text (l : Layout) (x : Decimal) : String :=
  .ofList ((if x.negative then ['-'] else []) ++ l.magnitude x)

end Layout

end RequestGroups.Number
