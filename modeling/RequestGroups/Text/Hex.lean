/-! # Hexadecimal digits

Digits are read in both cases and written in lower case.

* `Hex.value_digits`: a number is read back from its digits. -/

namespace RequestGroups.Text.Hex

/-- The value of a hexadecimal digit of either case. -/
def digit? (c : Char) : Option Nat :=
  if '0' ≤ c ∧ c ≤ '9' then some (c.toNat - 48)
  else if 'a' ≤ c ∧ c ≤ 'f' then some (c.toNat - 87)
  else if 'A' ≤ c ∧ c ≤ 'F' then some (c.toNat - 55)
  else none

/-- The number written by hexadecimal digits, the most significant first; other characters count
for nothing. -/
def value (cs : List Char) : Nat :=
  (cs.filterMap digit?).foldl (fun n d => 16 * n + d) 0

/-- The digit that writes a number below sixteen. -/
def ofDigit (d : Nat) : Char :=
  if d < 10 then Char.ofNat (48 + d) else Char.ofNat (87 + d)

/-- The digits of a number, the most significant first; at least one. -/
def digits (n : Nat) : List Char :=
  if n < 16 then [ofDigit n] else digits (n / 16) ++ [ofDigit (n % 16)]
termination_by n

theorem digit?_ofDigit : ∀ d < 16, digit? (ofDigit d) = some d := by decide

theorem value_append_digit (cs : List Char) {d : Nat} (h : d < 16) :
    value (cs ++ [ofDigit d]) = 16 * value cs + d := by
  simp [value, digit?_ofDigit d h]

theorem value_digits (n : Nat) : value (digits n) = n := by
  induction n using digits.induct with
  | case1 n h => rw [digits, if_pos h]; simpa [value] using value_append_digit [] h
  | case2 n h ih =>
    rw [digits, if_neg h, value_append_digit _ (Nat.mod_lt _ (by decide)), ih]
    omega

end RequestGroups.Text.Hex
