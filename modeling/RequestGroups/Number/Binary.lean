import RequestGroups.Number.Decimal

/-! # Binary floating point

A format has numbers `mantissa · 2 ^ exponent` with a bounded mantissa and a bounded exponent.

* `Format.round` is the number of a format that is nearest to a ratio; of two nearest ones it is the
  one with the even mantissa, and beyond the greatest number it is infinite;
* `Format.ofNumeral` is the value that a text stands for;
* `Floating.convert` is a value in another format.

Powers are written as `Nat.pow`, since the sign for powers is overloaded where more is imported. -/

namespace RequestGroups.Number

/-- A format. Its mantissas have at most `precision` bits, and its exponents reach from `least` to
`most`. -/
structure Format where
  precision : Nat
  least : Int
  most : Int
  deriving DecidableEq, Repr

/-- Numbers of 32 bits. -/
def Format.single : Format := ⟨24, -149, 104⟩

/-- Numbers of 64 bits. -/
def Format.double : Format := ⟨53, -1074, 971⟩

/-- The number `mantissa · 2 ^ exponent` with a sign, which a zero has too. In a format the exponent
is the smallest one for which the mantissa is whole and not too long. -/
structure Binary where
  negative : Bool
  mantissa : Nat
  exponent : Int
  deriving DecidableEq, Repr, Inhabited

/-- A value in floating point. -/
inductive Floating where
  | finite (number : Binary)
  | infinite (negative : Bool)
  | nan
  deriving DecidableEq, Repr, Inhabited

/-- The quotient rounded to the nearest whole number, a half to the even one. -/
def roundDiv (num den : Nat) : Nat :=
  let q := num / den
  let twice := 2 * (num % den)
  if twice < den ∨ (twice = den ∧ q % 2 = 0) then q else q + 1

/-- A ratio divided by a power of two. -/
def inUnits (num den : Nat) (exponent : Int) : Nat × Nat :=
  (num * Nat.pow 2 (-exponent).toNat, den * Nat.pow 2 exponent.toNat)

namespace Format

/-- The zero of a format. -/
def zero (f : Format) (negative : Bool) : Binary := ⟨negative, 0, f.least⟩

/-- The exponent of the numbers around a positive ratio. -/
def exponentOf (f : Format) (num den : Nat) : Int :=
  let low := max f.least ((num.log2 : Int) - den.log2 - f.precision)
  let (n, d) := inUnits num den low
  if n / d < Nat.pow 2 f.precision then low else low + 1

/-- The number of the format that is nearest to a ratio. -/
def round (f : Format) (negative : Bool) (num den : Nat) : Floating :=
  if num = 0 then .finite (f.zero negative) else
  let e := f.exponentOf num den
  let (n, d) := inUnits num den e
  let m := roundDiv n d
  let (m, e) := if m < Nat.pow 2 f.precision then (m, e) else (Nat.pow 2 (f.precision - 1), e + 1)
  if e ≤ f.most then .finite ⟨negative, m, e⟩ else .infinite negative

/-- The number of the format that is nearest to a decimal. Far out of range the power of ten is not
computed: a decimal is at least `2 ^ (log2 digits + exponent)` for an exponent that is not negative,
and less than `2 ^ (log2 digits + 1 + 3 · exponent)` for one that is. -/
def ofDecimal (f : Format) (x : Decimal) : Floating :=
  let size : Int := x.digits.log2
  if x.digits = 0 then .finite (f.zero x.negative)
  else if 0 ≤ x.exponent then
    if f.precision + f.most ≤ size + x.exponent then .infinite x.negative
    else f.round x.negative (x.digits * Nat.pow 10 x.exponent.toNat) 1
  else if size + 1 + 3 * x.exponent < f.least then .finite (f.zero x.negative)
  else f.round x.negative x.digits (Nat.pow 10 (-x.exponent).toNat)

/-- The value of the format that a text stands for. -/
def ofNumeral (f : Format) : Numeral → Floating
  | .decimal d => f.ofDecimal d
  | .infinite negative => .infinite negative
  | .nan => .nan

end Format

/-- The number in another format. -/
def Binary.convert (x : Binary) (f : Format) : Floating :=
  f.round x.negative (x.mantissa * Nat.pow 2 x.exponent.toNat)
    (Nat.pow 2 (-x.exponent).toNat)

/-- The value in another format. -/
def Floating.convert (x : Floating) (f : Format) : Floating :=
  match x with
  | finite b => b.convert f
  | infinite negative => .infinite negative
  | nan => .nan

end RequestGroups.Number
