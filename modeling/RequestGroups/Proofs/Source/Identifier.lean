import Mathlib.Data.List.TakeWhile
import RequestGroups.Source.Lexer

/-! # Identifiers as source text spells them

`Ident.IsSpelled` says that the spelling of an identifier is read as this identifier and nothing
else. Such identifiers are words (`IsWord`) whose raw form exists if they are raw
(`Ident.isSpelled_iff`), and they are told apart by their spellings (`Ident.spelling_eq_iff`).

* `dropIdent_eq_some` and `ident?_eq_some` say what is read as an identifier, and up to where;
* `ident?_spelling` reads a spelling in front of any text that does not go on with it;
* `Ident.isSpelled_of_ident?`: what is read from a source text is spelled. -/

namespace RequestGroups.Source

open RequestGroups.Text

variable {cs w rest : List Char} {i j : Ident} {raw : Bool} {name : String}

/-! ### Words -/

/-- A word: a character that starts identifiers and characters that they go on with. -/
def IsWord (w : List Char) : Prop :=
  ∃ c ds, w = c :: ds ∧ isIdentStart c ∧ ∀ d ∈ ds, isIdentContinue d

/-- Whether no identifier goes on with the text. -/
def EndsWord (cs : List Char) : Prop := ∀ c ∈ cs.head?, isIdentContinue c = false

theorem endsWord_nil : EndsWord [] := nofun

theorem endsWord_colon : EndsWord (':' :: cs) := by
  rintro _ ⟨⟩
  decide

theorem endsWord_dropWhile : EndsWord (cs.dropWhile isIdentContinue) := by
  intro c hc
  have := List.head?_dropWhile_not isIdentContinue cs
  rw [Option.mem_def.1 hc] at this
  simpa using this

/-- **An identifier is read up to the end of its word.** -/
theorem dropIdent_eq_some :
    dropIdent cs = some rest ↔ ∃ w, IsWord w ∧ EndsWord rest ∧ cs = w ++ rest := by
  constructor
  · intro h
    cases cs with
    | nil => exact absurd h nofun
    | cons c ds =>
      obtain ⟨hc, h⟩ := Option.ite_none_right_eq_some.1 h
      cases h
      refine ⟨c :: ds.takeWhile isIdentContinue, ⟨c, _, rfl, hc, ?_⟩, endsWord_dropWhile, ?_⟩
      · exact fun d hd => List.mem_takeWhile_imp hd
      · rw [List.cons_append, List.takeWhile_append_dropWhile]
  · rintro ⟨_, ⟨c, ds, rfl, hc, hds⟩, hrest, rfl⟩
    rw [List.cons_append, dropIdent, if_pos hc, List.dropWhile_append_of_pos hds]
    cases rest with
    | nil => rfl
    | cons d rest => rw [List.dropWhile_cons_of_neg (by simp [hrest d rfl])]

/-- A word is not read as the mark of a raw identifier. -/
theorem IsWord.not_startsWith_mark (hw : IsWord w) (hash : rest.head? ≠ some '#') :
    ¬ "r#".toList <+: w ++ rest := by
  obtain ⟨c, ds, rfl, -, hds⟩ := hw
  rintro ⟨more, h⟩
  cases ds with
  | nil =>
    obtain ⟨-, rfl⟩ := List.cons.inj h
    exact hash rfl
  | cons d ds =>
    cases h
    exact absurd (hds '#' List.mem_cons_self) (by decide)

/-! ### Reading an identifier -/

/-- The characters of a spelling. -/
theorem Ident.toList_spelling :
    i.spelling.toList = (if i.raw then "r#".toList else []) ++ i.name.toList := by
  unfold spelling
  split <;> simp

theorem take_word : (w ++ rest).take ((w ++ rest).length - rest.length) = w := by
  rw [List.length_append, Nat.add_sub_cancel, List.take_left]

/-- Reads an identifier whose mark, if it has one, is already read. -/
def identBehind (raw : Bool) (body : List Char) : Option (Bool × String × List Char) :=
  (dropIdent body).bind fun rest =>
    let name := String.ofList (body.take (body.length - rest.length))
    if raw && neverRaw.contains name then none else some (raw, name, rest)

theorem ident?_mark : ident? ("r#".toList ++ cs) = identBehind true cs := by
  have mark : "r#".toList.isPrefixOf ("r#".toList ++ cs) = true := by simp
  have body : ("r#".toList ++ cs).drop 2 = cs := rfl
  unfold ident? identBehind
  simp only [mark, body, if_true]
  cases dropIdent cs <;> rfl

theorem ident?_plain (plain : ¬ "r#".toList <+: cs) : ident? cs = identBehind false cs := by
  have mark : "r#".toList.isPrefixOf cs = false :=
    Bool.eq_false_iff.2 fun h => plain (List.isPrefixOf_iff_prefix.1 h)
  unfold ident? identBehind
  simp only [mark, Bool.false_eq_true, if_false]
  cases dropIdent cs <;> rfl

theorem identBehind_eq_some {marked : Bool} :
    identBehind marked cs = some (raw, name, rest) ↔ raw = marked ∧ IsWord name.toList ∧
      EndsWord rest ∧ (raw → name ∉ neverRaw) ∧ cs = name.toList ++ rest := by
  unfold identBehind
  constructor
  · intro h
    obtain ⟨after, hafter, h⟩ := Option.bind_eq_some_iff.1 h
    obtain ⟨w, hw, hrest, rfl⟩ := dropIdent_eq_some.1 hafter
    rw [take_word] at h
    obtain ⟨hn, h⟩ := Option.ite_none_left_eq_some.1 h
    cases h
    exact ⟨rfl, by simpa using hw, hrest, by simpa using hn, by simp⟩
  · rintro ⟨rfl, hname, hrest, hn, rfl⟩
    rw [dropIdent_eq_some.2 ⟨_, hname, hrest, rfl⟩, Option.bind_some, take_word,
      String.ofList_toList]
    exact if_neg (by simpa using hn)

/-- What is read as an identifier is its spelling. -/
theorem ident?_eq_some (h : ident? cs = some (i.raw, i.name, rest)) : IsWord i.name.toList ∧
    EndsWord rest ∧ (i.raw → i.name ∉ neverRaw) ∧ cs = i.spelling.toList ++ rest := by
  rw [Ident.toList_spelling]
  by_cases mark : "r#".toList <+: cs
  · obtain ⟨body, rfl⟩ := mark
    rw [ident?_mark] at h
    obtain ⟨hr, hw, hrest, hn, rfl⟩ := identBehind_eq_some.1 h
    exact ⟨hw, hrest, hn, by rw [hr, if_pos rfl, List.append_assoc]⟩
  · rw [ident?_plain mark] at h
    obtain ⟨hr, hw, hrest, hn, rfl⟩ := identBehind_eq_some.1 h
    exact ⟨hw, hrest, hn, by rw [hr, if_neg Bool.false_ne_true, List.nil_append]⟩

/-! ### Spelled identifiers -/

/-- Whether the spelling of the identifier is read as this identifier. -/
def Ident.IsSpelled (i : Ident) : Prop := ident? i.spelling.toList = some (i.raw, i.name, [])

instance (i : Ident) : Decidable i.IsSpelled := inferInstanceAs (Decidable (_ = _))

namespace Ident

/-- **A spelling is read as a whole**, whatever stands behind it, unless that goes on with the
word or with the mark of a raw identifier. -/
theorem ident?_spelling (hw : IsWord i.name.toList) (hn : i.raw → i.name ∉ neverRaw)
    (hrest : EndsWord rest) (hash : rest.head? ≠ some '#') :
    ident? (i.spelling.toList ++ rest) = some (i.raw, i.name, rest) := by
  rw [toList_spelling]
  rcases hr : i.raw
  · rw [if_neg Bool.false_ne_true, List.nil_append, ident?_plain, identBehind_eq_some]
    · exact ⟨rfl, hw, hrest, nofun, rfl⟩
    · exact hw.not_startsWith_mark hash
  · rw [if_pos rfl, List.append_assoc, ident?_mark, identBehind_eq_some]
    exact ⟨rfl, hw, hrest, fun _ => hn hr, rfl⟩

/-- **The spelled identifiers** are the words, but for the raw ones that do not exist. -/
theorem isSpelled_iff :
    i.IsSpelled ↔ IsWord i.name.toList ∧ (i.raw → i.name ∉ neverRaw) := by
  constructor
  · intro h
    obtain ⟨hw, -, hn, -⟩ := ident?_eq_some h
    exact ⟨hw, hn⟩
  · rintro ⟨hw, hn⟩
    have read := ident?_spelling hw hn endsWord_nil nofun
    rwa [List.append_nil] at read

/-- Every identifier of a source text is spelled, wherever it stands. -/
theorem isSpelled_of_ident? (h : ident? cs = some (raw, name, rest)) (span : Span) :
    IsSpelled ⟨raw, name, span⟩ := by
  obtain ⟨hw, -, hn, -⟩ := ident?_eq_some (i := ⟨raw, name, span⟩) h
  exact isSpelled_iff.2 ⟨hw, hn⟩

/-- **Spelled identifiers are told apart by their spellings.** -/
theorem spelling_eq_iff (hi : i.IsSpelled) (hj : j.IsSpelled) :
    i.spelling = j.spelling ↔ i.same j := by
  unfold same
  rw [Bool.and_eq_true, beq_iff_eq, beq_iff_eq]
  constructor
  · intro h
    unfold IsSpelled at hi hj
    rw [h, hj] at hi
    simp only [Option.some.injEq, Prod.mk.injEq] at hi
    exact ⟨hi.1.symm, hi.2.1.symm⟩
  · rintro ⟨hr, hn⟩
    unfold spelling
    rw [hr, hn]

end Ident

end RequestGroups.Source
