import Mathlib.Data.List.Lex
import Mathlib.Tactic.SplitIfs

/-! # The order of texts by their bytes

Texts are compared by their code points. UTF-8 is made so that their bytes give the same order: two
characters differ at a byte that both of them have, and the character with the larger code point has
the larger byte there.

* `bytes_lt_bytes`: a text has smaller bytes than another one if and only if it is smaller. -/

namespace RequestGroups.Text

/-- The UTF-8 bytes of a text. -/
def bytes (s : String) : List UInt8 := s.toUTF8.data.toList

theorem bytes_eq_flatMap (s : String) : bytes s = s.toList.flatMap String.utf8EncodeChar := by
  rw [bytes, String.toUTF8, ← String.utf8Encode_toList, List.utf8Encode, List.data_toByteArray]

/-! ### Bytes that decide -/

/-- At the first byte at which two sequences differ, the byte of the first one is smaller, and none
of the sequences ends before. -/
def Precedes : List UInt8 → List UInt8 → Prop
  | x :: u, y :: v => x < y ∨ x = y ∧ Precedes u v
  | _, _ => False

namespace Precedes

variable {u v : List UInt8}

/-- What follows does not count any more. -/
theorem append (h : Precedes u v) (s t : List UInt8) : Precedes (u ++ s) (v ++ t) := by
  induction u generalizing v with
  | nil => exact absurd h nofun
  | cons x u ih =>
    cases v with
    | nil => exact absurd h nofun
    | cons y v => exact h.imp id fun ⟨he, hr⟩ => ⟨he, ih hr⟩

theorem append_left (h : Precedes u v) (s : List UInt8) : Precedes (s ++ u) (s ++ v) := by
  induction s with
  | nil => exact h
  | cons x s ih => exact Or.inr ⟨rfl, ih⟩

theorem lt (h : Precedes u v) : u < v := by
  induction u generalizing v with
  | nil => exact absurd h nofun
  | cons x u ih =>
    cases v with
    | nil => exact absurd h nofun
    | cons y v => exact List.cons_lt_cons_iff.2 (h.imp id fun ⟨he, hr⟩ => ⟨he, ih hr⟩)

end Precedes

/-! ### Characters -/

theorem ofNat_lt_ofNat {a b : Nat} (h : a < b) (hb : b < 256) : UInt8.ofNat a < UInt8.ofNat b := by
  rw [UInt8.lt_iff_toNat_lt, UInt8.toNat_ofNat', UInt8.toNat_ofNat']
  omega

/-- The last six bits of a number, in a byte that does not start a character. -/
def trailByte (n : Nat) : UInt8 := .ofNat (n % 64 + 128)

/-- A number as a byte that starts a character, and six bits of it in each of `k` more bytes. -/
def byteGroups (start : Nat → UInt8) : Nat → Nat → List UInt8
  | 0, n => [start n]
  | k + 1, n => byteGroups start k (n / 64) ++ [trailByte n]

/-- Larger numbers have larger bytes, as long as this holds of the bytes that start. -/
theorem precedes_byteGroups {start : Nat → UInt8} {bound : Nat}
    (hs : ∀ a b, a < b → b < bound → start a < start b) {k n m : Nat} (h : n < m)
    (hm : m < bound * Nat.pow 64 k) : Precedes (byteGroups start k n) (byteGroups start k m) := by
  induction k generalizing n m with
  | zero =>
    have hm : m < bound * 1 := hm
    exact Or.inl (hs n m h (by rwa [Nat.mul_one] at hm))
  | succ k ih =>
    have hm' : m / 64 < bound * Nat.pow 64 k := by
      rw [Nat.div_lt_iff_lt_mul (by decide), Nat.mul_assoc]
      exact hm
    rcases Nat.lt_or_ge (n / 64) (m / 64) with hlt | hge
    · exact (ih hlt hm').append _ _
    · -- the numbers differ in their last six bits only
      have heq : n / 64 = m / 64 := by omega
      rw [byteGroups, byteGroups, heq]
      have last : Precedes [trailByte n] [trailByte m] :=
        Or.inl (ofNat_lt_ofNat (by omega) (by omega))
      exact last.append_left _

/-- The bytes of a character, by the size of its code point. -/
theorem utf8EncodeChar_eq (c : Char) : String.utf8EncodeChar c =
    if c.toNat < 128 then byteGroups UInt8.ofNat 0 c.toNat
    else if c.toNat < 2048 then byteGroups (fun a => .ofNat (a % 32 + 192)) 1 c.toNat
    else if c.toNat < 65536 then byteGroups (fun a => .ofNat (a % 16 + 224)) 2 c.toNat
    else byteGroups (fun a => .ofNat (a % 8 + 240)) 3 c.toNat := by
  simp only [String.utf8EncodeChar, byteGroups, trailByte, Char.toNat, Nat.div_div_eq_div_mul,
    Nat.lt_succ_iff]
  rfl

/-- Code points end before `0x110000`. -/
theorem toNat_lt (c : Char) : c.toNat < 0x110000 := by
  have := c.valid
  unfold UInt32.isValidChar Nat.isValidChar at this
  unfold Char.toNat
  omega

/-- **Of two characters** the one with the larger code point has the larger bytes. -/
theorem precedes_utf8EncodeChar {c d : Char} (h : c < d) :
    Precedes (String.utf8EncodeChar c) (String.utf8EncodeChar d) := by
  have hlt : c.toNat < d.toNat := UInt32.lt_iff_toNat_lt.1 (Char.lt_def.1 h)
  have hmax := toNat_lt d
  rw [utf8EncodeChar_eq, utf8EncodeChar_eq]
  generalize c.toNat = n at hlt ⊢
  generalize d.toNat = m at hlt hmax ⊢
  have start (base : Nat) (k : Nat) (hb : base + k ≤ 256) : ∀ a b, a < b → b < k →
      UInt8.ofNat (a % k + base) < UInt8.ofNat (b % k + base) := by
    intro a b hab hbk
    rw [Nat.mod_eq_of_lt hbk, Nat.mod_eq_of_lt (hab.trans hbk)]
    exact ofNat_lt_ofNat (by omega) (by omega)
  -- characters of one size are compared by their numbers, others by their first bytes
  split_ifs <;> try omega
  · exact Or.inl (ofNat_lt_ofNat hlt (by omega))
  · exact Or.inl (ofNat_lt_ofNat (by omega) (by omega))
  · exact Or.inl (ofNat_lt_ofNat (by omega) (by omega))
  · exact Or.inl (ofNat_lt_ofNat (by omega) (by omega))
  · exact precedes_byteGroups (start 192 32 (by decide)) hlt (by omega)
  · exact Or.inl (ofNat_lt_ofNat (by omega) (by omega))
  · exact Or.inl (ofNat_lt_ofNat (by omega) (by omega))
  · exact precedes_byteGroups (start 224 16 (by decide)) hlt (by omega)
  · exact Or.inl (ofNat_lt_ofNat (by omega) (by omega))
  · exact precedes_byteGroups (start 240 8 (by decide)) hlt (by change m < 8 * 262144; omega)

/-! ### Texts -/

theorem flatMap_utf8EncodeChar_lt {cs ds : List Char} (h : cs < ds) :
    cs.flatMap String.utf8EncodeChar < ds.flatMap String.utf8EncodeChar := by
  induction cs generalizing ds with
  | nil =>
    cases ds with
    | nil => exact absurd h (List.not_lt_nil _)
    | cons d ds =>
      obtain ⟨x, u, hx⟩ := List.exists_cons_of_ne_nil (String.utf8EncodeChar_ne_nil (c := d))
      rw [List.flatMap_cons, hx]
      exact List.nil_lt_cons _ _
  | cons c cs ih =>
    cases ds with
    | nil => exact absurd h (List.not_lt_nil _)
    | cons d ds =>
      rw [List.flatMap_cons, List.flatMap_cons]
      rcases List.cons_lt_cons_iff.1 h with hlt | ⟨rfl, hrest⟩
      · exact ((precedes_utf8EncodeChar hlt).append _ _).lt
      · exact List.append_left_lt (ih hrest)

/-- **The bytes of texts** are in the same order as the texts. -/
theorem bytes_lt_bytes {s t : String} : bytes s < bytes t ↔ s < t := by
  have mono {s t : String} (h : s < t) : bytes s < bytes t := by
    rw [bytes_eq_flatMap, bytes_eq_flatMap]
    exact flatMap_utf8EncodeChar_lt h
  refine ⟨fun h => ?_, mono⟩
  by_contra hst
  rcases eq_or_ne s t with rfl | hne
  · exact List.lt_irrefl _ h
  · exact List.lt_asymm h (mono (Std.lt_of_le_of_ne (String.not_lt.1 hst) hne.symm))

end RequestGroups.Text
