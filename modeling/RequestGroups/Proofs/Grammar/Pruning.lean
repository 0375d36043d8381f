import Mathlib.Data.List.Basic
import RequestGroups.Grammar.Item

/-! # Tokens outside of chosen field attributes

Every token of a phrase has a place: the field attributes that it stands in, whatever their depth.
Removing the chosen field attributes removes the tokens that stand in one of them and keeps all
other tokens in their order.

* `Token` are tokens without any structure, in which delimiters are tokens too;
* `Part.placedOf` lists the tokens of a phrase with their places;
* `Phrase.placed_strip` says what is left of a phrase. -/

namespace RequestGroups.Grammar

open RequestGroups.Source

/-! ### Tokens without structure -/

/-- A token, or a delimiter of a group. -/
inductive Token where
  | ident (i : Ident)
  | punct (sign : Char) (joint : Bool) (span : Span)
  | literal (text : String) (span : Span)
  | opening (d : Delimiter) (span : Span)
  | closing (d : Delimiter) (span : Span)
  deriving DecidableEq, Repr

namespace Token

mutual

/-- The tokens of a tree. -/
def ofTree : TokenTree → List Token
  | .ident i => [ident i]
  | .punct sign joint span => [punct sign joint span]
  | .literal text span => [literal text span]
  | .group d opens closes inner => opening d opens :: ofTrees inner ++ [closing d closes]

/-- The tokens of a sequence of trees. -/
def ofTrees : List TokenTree → List Token
  | [] => []
  | t :: ts => ofTree t ++ ofTrees ts

end

@[simp] theorem ofTrees_append (ts us : List TokenTree) :
    ofTrees (ts ++ us) = ofTrees ts ++ ofTrees us := by
  induction ts with
  | nil => rfl
  | cons t ts ih => simp [ofTrees, ih]

end Token

/-! ### Tokens with their places -/

/-- A token with the field attributes that it stands in. -/
structure Placed where
  token : Token
  /-- The tags of the attributes, inner ones first. -/
  within : List (Option String)

/-- Whether a token stands in none of the chosen field attributes. -/
def Placed.isKept (chosen : String → Bool) (t : Placed) : Bool :=
  !t.within.any fun tag => tag.any chosen

namespace Part

mutual

/-- The tokens of an element that stands in some field attributes. -/
def placed (within : List (Option String)) : Part → List Placed
  | verbatim t => (Token.ofTree t).map (⟨·, within⟩)
  | group d inner =>
    ⟨.opening d .callSite, within⟩ :: placedOf within inner ++ [⟨.closing d .callSite, within⟩]
  | fieldAttribute tag inner => placedOf (tag :: within) inner

/-- The tokens of a phrase that stands in some field attributes. -/
def placedOf (within : List (Option String)) : List Part → List Placed
  | [] => []
  | p :: ps => placed within p ++ placedOf within ps

end

theorem placedOf_append (w : List (Option String)) (ps qs : List Part) :
    placedOf w (ps ++ qs) = placedOf w ps ++ placedOf w qs := by
  induction ps with
  | nil => rfl
  | cons p ps ih => simp [placedOf, ih]

mutual

theorem map_token_placed (w : List (Option String)) (p : Part) :
    (p.placed w).map (·.token) = Token.ofTrees p.trees := by
  match p with
  | verbatim t => simp [placed, trees, Token.ofTrees, Function.comp_def]
  | group d inner =>
    simp [placed, trees, Token.ofTrees, Token.ofTree, map_token_placedOf w inner]
  | fieldAttribute tag inner => rw [placed, trees, map_token_placedOf (tag :: w) inner]

/-- The tokens with their places are the tokens of the phrase. -/
theorem map_token_placedOf (w : List (Option String)) (ps : List Part) :
    (placedOf w ps).map (·.token) = Token.ofTrees (treesOf ps) := by
  match ps with
  | [] => rfl
  | p :: ps =>
    rw [placedOf, treesOf, List.map_append, Token.ofTrees_append, map_token_placed w p,
      map_token_placedOf w ps]

end

mutual

theorem subset_within_of_mem_placed {w : List (Option String)} {t : Placed} (p : Part)
    (h : t ∈ p.placed w) : w ⊆ t.within := by
  match p with
  | verbatim tree =>
    obtain ⟨x, -, rfl⟩ := List.mem_map.1 h
    exact List.Subset.refl w
  | group d inner =>
    simp only [placed, List.cons_append, List.mem_cons, List.mem_append, List.not_mem_nil,
      or_false] at h
    rcases h with rfl | h | rfl
    · exact List.Subset.refl w
    · exact subset_within_of_mem_placedOf inner h
    · exact List.Subset.refl w
  | fieldAttribute tag inner =>
    exact List.subset_of_cons_subset (subset_within_of_mem_placedOf inner h)

/-- The tokens of a phrase stand where the phrase stands. -/
theorem subset_within_of_mem_placedOf {w : List (Option String)} {t : Placed} (ps : List Part)
    (h : t ∈ placedOf w ps) : w ⊆ t.within := by
  match ps with
  | [] => exact absurd h List.not_mem_nil
  | p :: ps =>
    rcases List.mem_append.1 h with h | h
    · exact subset_within_of_mem_placed p h
    · exact subset_within_of_mem_placedOf ps h

end

/-- No token of a chosen field attribute is kept. -/
theorem filter_placedOf_of_chosen {chosen : String → Bool} {tag : Option String}
    (h : tag.any chosen) (w : List (Option String)) (ps : List Part) :
    (placedOf (tag :: w) ps).filter (Placed.isKept chosen) = [] := by
  refine List.filter_eq_nil_iff.2 fun t ht => ?_
  have mem : tag ∈ t.within := subset_within_of_mem_placedOf ps ht List.mem_cons_self
  simp only [Placed.isKept, Bool.not_eq_true', Bool.not_eq_false, List.any_eq_true]
  exact ⟨tag, mem, h⟩

mutual

theorem placedOf_strip {chosen : String → Bool} {w : List (Option String)}
    (hw : w.any (fun tag => tag.any chosen) = false) (p : Part) :
    placedOf w (p.strip chosen) = (p.placed w).filter (Placed.isKept chosen) := by
  match p with
  | verbatim t =>
    rw [strip, placedOf, placedOf, List.append_nil, List.filter_eq_self.2]
    intro x hx
    obtain ⟨l, -, rfl⟩ := List.mem_map.1 hx
    simp [Placed.isKept, hw]
  | group d inner =>
    simp [strip, placedOf, placed, Placed.isKept, hw, placedOf_stripAll hw inner]
  | fieldAttribute tag inner =>
    rw [strip, placed]
    by_cases h : tag.any chosen
    · rw [if_pos h, filter_placedOf_of_chosen h]
      rfl
    · rw [if_neg h, placedOf, placedOf, List.append_nil, placed]
      exact placedOf_stripAll (by simpa [h] using hw) inner

/-- **What is left of a phrase**: the tokens that stand in no chosen field attribute. -/
theorem placedOf_stripAll {chosen : String → Bool} {w : List (Option String)}
    (hw : w.any (fun tag => tag.any chosen) = false) (ps : List Part) :
    placedOf w (stripAll chosen ps) = (placedOf w ps).filter (Placed.isKept chosen) := by
  match ps with
  | [] => rfl
  | p :: ps =>
    rw [stripAll, placedOf_append, placedOf_strip hw p, placedOf_stripAll hw ps, placedOf,
      List.filter_append]

end

end Part

namespace Phrase

/-- The tokens of a phrase with their places. -/
def placed (p : Phrase) : List Placed := Part.placedOf [] p

theorem map_token_placed (p : Phrase) : p.placed.map (·.token) = Token.ofTrees p.trees :=
  Part.map_token_placedOf [] p

theorem placed_strip (chosen : String → Bool) (p : Phrase) :
    (p.strip chosen).placed = p.placed.filter (Placed.isKept chosen) :=
  Part.placedOf_stripAll rfl p

end Phrase

end RequestGroups.Grammar
