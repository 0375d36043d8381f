import RequestGroups.Proofs.Grammar.Lists
import RequestGroups.Proofs.Grammar.StructReading

/-! # Lists of paths are read back

A list of paths that are read back in front of a comma, or at the end, is read back as a whole.

* `Path.StandsInList` says that a path is read back in a list, as every path of words is
  (`standsInList_words`);
* `listOf_commas` reads a list. -/

namespace RequestGroups.Grammar

open Source Reader

variable {is : List Ident} {scope : Span} {within : Option Delimiter}

/-- Whether an element of a list ends here. -/
def EndsElement (rest : List TokenTree) : Prop := rest = [] ∨ Rules.StartsWithComma rest

theorem trees_commas_cons (p q : Phrase) (ps : List Phrase) :
    (commas (p :: q :: ps)).trees = p.trees ++ Rules.comma :: (commas (q :: ps)).trees := by
  simp [commas]
  rfl

/-- Each phrase but the first has a comma in front of it. -/
theorem trees_commas (p : Phrase) (ps : List Phrase) :
    (commas (p :: ps)).trees = p.trees ++ ps.flatMap fun q => Rules.comma :: q.trees := by
  induction ps generalizing p with
  | nil => simp [commas]
  | cons q ps ih => rw [trees_commas_cons, ih, List.flatMap_cons, List.cons_append]

/-- **Phrases with commas between them** are read as a list if each of them is read. -/
theorem listOf_commas {r : Reader α} {phrase : α → Phrase} {as : List α}
    (h : ∀ a ∈ as, (phrase a).trees ≠ [] ∧ Reads r (phrase a).trees a EndsElement) :
    listOf r ⟨(commas (as.map phrase)).trees, scope, within, none⟩ =
      .ok (as, ⟨[], scope, within, none⟩) := by
  induction as with
  | nil => exact listOf_nil rfl
  | cons a as ih =>
    obtain ⟨⟨filled, read⟩, has⟩ := List.forall_mem_cons.1 h
    cases as with
    | nil =>
      have last := read [] scope within (.inl rfl)
      have trees : (commas ([a].map phrase)).trees = (phrase a).trees := by simp [commas]
      rw [List.append_nil] at last
      rw [trees]
      exact listOf_last filled last rfl
    | cons b as =>
      have trees : (commas ((a :: b :: as).map phrase)).trees =
          (phrase a).trees ++ Rules.comma :: (commas ((b :: as).map phrase)).trees :=
        trees_commas_cons _ _ _
      have first := read (Rules.comma :: (commas ((b :: as).map phrase)).trees) scope within
        (.inr ⟨_, rfl⟩)
      rw [trees, listOf_comma (by simp [filled]) first rfl (by simp)]
      change (listOf r ⟨(commas ((b :: as).map phrase)).trees, _, _, _⟩).map _ = _
      rw [ih has]
      rfl

namespace Path

/-- The path is read back in a list, whatever stands around it. -/
def StandsInList (p : Path) : Prop := p.trees ≠ [] ∧ ∀ n, 8 * (TokenTree.countOf p.trees + 2) ≤ n →
  Reads (Rules.path (level n) false) p.trees p EndsElement

/-- **A path of words** may stand in a list. -/
theorem standsInList_words {rooted : Bool} {first : Ident} (hfirst : Rules.isPathWord first)
    (his : ∀ i ∈ is, Rules.isPathWord i) : StandsInList (ofWords rooted first is) := by
  constructor
  · rw [trees_ofWords]
    simp
  · rintro n - rest scope within hrest
    refine Rules.path_words hfirst his rest scope within ?_
    rcases hrest with rfl | ⟨more, rfl⟩
    · exact ⟨rfl, rfl⟩
    · exact ⟨rfl, rfl⟩

theorem standsInList_names {rooted : Bool} {names : List String} (some : names ≠ [])
    (h : ∀ n ∈ names, Rules.isPathWord (.plain n)) : StandsInList (ofNames rooted names) := by
  obtain ⟨first, more, rfl⟩ := List.exists_cons_of_ne_nil some
  obtain ⟨hfirst, hmore⟩ := List.forall_mem_cons.1 h
  have stands : StandsInList (ofWords rooted (.plain first) (more.map .plain)) :=
    standsInList_words hfirst (by simpa using hmore)
  rwa [ofWords, ← List.map_cons, List.map_map] at stands

end Path

theorem countOf_le_commas {ps : List Phrase} {p : Phrase} (h : p ∈ ps) :
    TokenTree.countOf p.trees ≤ TokenTree.countOf (commas ps).trees := by
  cases ps with
  | nil => exact absurd h List.not_mem_nil
  | cons q ps =>
    rw [trees_commas, TokenTree.countOf_append]
    rcases List.mem_cons.1 h with rfl | h
    · omega
    · have part := countOf_le_flatMap (g := fun q : Phrase => Rules.comma :: q.trees) h
      simp only [TokenTree.countOf] at part
      omega

end RequestGroups.Grammar
