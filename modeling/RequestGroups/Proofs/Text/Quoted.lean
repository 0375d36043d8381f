import RequestGroups.Proofs.Text.ByteOrder
import RequestGroups.Text.Quoted

/-! # Strings are read back

The literal that is written for a text has the text as its value, whatever characters the text
consists of.

* `Spells`: some characters between quotes are read as a given character;
* `spells_writeChar`: every character is written so;
* `read?_write`: a text is read back from its literal. -/

namespace RequestGroups.Text

/-! ### Hexadecimal digits -/

namespace Hex

theorem isSome_digit?_of_mem {n : Nat} {c : Char} (h : c ∈ digits n) : (digit? c).isSome := by
  induction n using digits.induct with
  | case1 n hn =>
    rw [digits, if_pos hn, List.mem_singleton] at h
    rw [h, digit?_ofDigit n hn]
    rfl
  | case2 n hn ih =>
    rw [digits, if_neg hn, List.mem_append, List.mem_singleton] at h
    rcases h with h | h
    · exact ih h
    · rw [h, digit?_ofDigit _ (Nat.mod_lt _ (by decide))]
      rfl

theorem length_digits_le {k n : Nat} (h : n < Nat.pow 16 (k + 1)) :
    (digits n).length ≤ k + 1 := by
  induction k generalizing n with
  | zero =>
    have one : n < 16 := h
    simp [digits, one]
  | succ k ih =>
    rw [digits]
    split
    · simp
    · have quotient : n / 16 < Nat.pow 16 (k + 1) := (Nat.div_lt_iff_lt_mul (by decide)).2 h
      simpa using ih quotient

/-- A number has at least one digit. -/
theorem filterMap_digits_ne_nil (n : Nat) : (digits n).filterMap digit? ≠ [] := by
  rw [digits]
  split
  case isTrue hn => simp [digit?_ofDigit n hn]
  case isFalse hn =>
    rw [List.filterMap_append]
    simp [digit?_ofDigit _ (Nat.mod_lt n (by decide : 0 < 16))]

end Hex

namespace Quoted

/-! ### Code points -/

theorem ofNatAux_eq {n : Nat} {c : Char} (h : n.isValidChar) (hn : n = c.toNat) :
    Char.ofNatAux n h = c := by
  subst hn
  rfl

/-- A code point is read back from its digits. -/
theorem codePoint?_digits (c : Char) : codePoint? (Hex.digits c.toNat) = some c := by
  have head : (Hex.digits c.toNat).head? ≠ some '_' := fun h =>
    absurd (Hex.isSome_digit?_of_mem (List.mem_of_head? h)) (by decide)
  have bound : c.toNat < Nat.pow 16 6 := Nat.lt_trans (toNat_lt c) (by decide)
  have few : ((Hex.digits c.toNat).filterMap Hex.digit?).length ≤ 6 :=
    Nat.le_trans (List.length_filterMap_le _ _) (Hex.length_digits_le bound)
  have all : ∀ d ∈ Hex.digits c.toNat, (Hex.digit? d).isSome :=
    fun d hd => Hex.isSome_digit?_of_mem hd
  unfold codePoint?
  rw [if_neg, dif_pos]
  · rw [ofNatAux_eq _ (Hex.value_digits c.toNat)]
  · rw [Hex.value_digits]
    exact c.valid
  · rintro (h | h | h | h)
    · exact head h
    · exact Hex.filterMap_digits_ne_nil _ (List.isEmpty_iff.1 h)
    · omega
    · rw [List.all_eq_true.2 fun d hd => by rw [all d hd, Bool.or_true]] at h
      exact absurd h (by decide)

/-- The end of the digits is found at the brace. -/
theorem escape_codePoint (c : Char) (rest : List Char) :
    escape .string ('u' :: '\x7b' :: (Hex.digits c.toNat ++ '\x7d' :: rest)) =
      some (some c, rest) := by
  have digit : ∀ d ∈ Hex.digits c.toNat, (d != '\x7d') = true := by
    intro d hd
    rw [bne_iff_ne]
    rintro rfl
    exact absurd (Hex.isSome_digit?_of_mem hd) (by decide)
  have digits : (Hex.digits c.toNat ++ '\x7d' :: rest).takeWhile (· != '\x7d') =
      Hex.digits c.toNat := by
    rw [List.takeWhile_append_of_pos digit]
    simp
  have after : (Hex.digits c.toNat ++ '\x7d' :: rest).dropWhile (· != '\x7d') = '\x7d' :: rest := by
    rw [List.dropWhile_append_of_pos digit]
    simp
  simp only [escape, digits, after, codePoint?_digits]
  rfl

/-! ### Characters -/

/-- Some characters between quotes stand for one character. -/
def Spells (text : List Char) (c : Char) : Prop :=
  ∀ rest, scan .string (text ++ rest) = (scan .string rest).map fun (v, r) => (c :: v, r)

/-- A character that is no quote, backslash or carriage return stands for itself. -/
theorem spells_self {c : Char} (hq : c ≠ '"') (hb : c ≠ '\\') (hr : c ≠ '\r') :
    Spells [c] c := by
  intro rest
  rw [List.singleton_append, scan]
  · rfl
  all_goals simp_all

/-- An escape stands for the character that it gives. -/
theorem spells_escape {text : List Char} {c : Char}
    (h : ∀ rest, escape .string (text ++ rest) = some (some c, rest)) :
    Spells ('\\' :: text) c := by
  intro rest
  rw [List.cons_append, scan]
  split
  case h_1 d after he =>
    rw [h] at he
    cases he
    rfl
  case h_2 he =>
    rw [h] at he
    cases he

theorem spells_writeChar (c : Char) : Spells (writeChar c) c := by
  unfold writeChar
  split_ifs with h0 ht hr hn hb hq hp
  · exact spells_escape fun rest => by rw [h0]; rfl
  · exact spells_escape fun rest => by rw [ht]; rfl
  · exact spells_escape fun rest => by rw [hr]; rfl
  · exact spells_escape fun rest => by rw [hn]; rfl
  · exact spells_escape fun rest => by rw [hb]; rfl
  · exact spells_escape fun rest => by rw [hq]; rfl
  · exact spells_self hq hb hr
  · exact spells_escape fun rest => by simpa using escape_codePoint c rest

/-! ### Texts -/

theorem scan_writeContents (cs rest : List Char) :
    scan .string (writeContents cs ++ '"' :: rest) = some (cs, rest) := by
  induction cs with
  | nil => simp [writeContents, scan]
  | cons c cs ih =>
    have first : Spells (if c = '\x00' ∧ cs.head?.any (fun d => '0' ≤ d && d ≤ '7') then
        ['\\', 'x', '0', '0'] else writeChar c) c := by
      split_ifs with h
      · exact spells_escape fun rest => by rw [h.1]; rfl
      · exact spells_writeChar c
    rw [writeContents, List.append_assoc, first, ih]
    rfl

/-- **A text** is read back from its literal. -/
theorem read?_write (text : String) : read? (write text) = some (text, "") := by
  unfold read? write
  rw [String.toList_ofList, List.cons_append]
  simp [scan_writeContents]

end Quoted

end RequestGroups.Text
