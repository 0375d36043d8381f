import Mathlib.Data.List.Forall2
import RequestGroups.Proofs.Grammar.Pruning

/-! # Items without chosen field attributes

An item loses the chosen attributes of its fields part by part, and its phrase loses them wherever
it marks an attribute of a field. How the two results are related is a matter of the attributes that
are left (`StructItem.related_strip`): they have the same tokens (`Item.trees_strip`), but an
attribute that is stripped inside may have another tag afterwards.

The tokens are those of the item outside of all chosen field attributes (`Item.tokens_strip`). -/

namespace RequestGroups.Grammar

open RequestGroups.Source

variable (chosen : String → Bool)

/-! ### Phrases -/

namespace Phrase

@[simp] theorem strip_ident (i : Ident) : (ident i).strip chosen = ident i := rfl

@[simp] theorem strip_word (name : String) : (word name).strip chosen = word name := rfl

@[simp] theorem strip_sign (text : String) : (sign text).strip chosen = sign text := by
  simp [sign]

@[simp] theorem strip_group (d : Delimiter) (p : Phrase) :
    (group d p).strip chosen = group d (p.strip chosen) := rfl

@[simp] theorem trees_group (d : Delimiter) (p : Phrase) :
    (group d p).trees = [.group d .callSite .callSite p.trees] := rfl

theorem strip_intercalate (sep : Phrase) (ps : List Phrase) :
    strip chosen (sep.intercalate ps) = (sep.strip chosen).intercalate (ps.map (strip chosen)) := by
  induction ps with
  | nil => rfl
  | cons p ps ih =>
    cases ps with
    | nil => simp
    | cons q ps => simp [ih]

theorem trees_intercalate (sep : Phrase) (ps : List Phrase) :
    trees (sep.intercalate ps) = sep.trees.intercalate (ps.map trees) := by
  induction ps with
  | nil => rfl
  | cons p ps ih =>
    cases ps with
    | nil => simp
    | cons q ps => simp [ih]

end Phrase

/-! ### Attributes -/

theorem Path.segmentsPhrase_strip : ∀ segments : List PathSegment,
    segmentsPhrase (segments.map fun s => { s with arguments := s.arguments.strip chosen }) =
      (segmentsPhrase segments).strip chosen
  | [] => rfl
  | [s] => by simp [segmentsPhrase]
  | s :: t :: rest => by
    have ih := segmentsPhrase_strip (t :: rest)
    simp only [List.map_cons, segmentsPhrase] at ih ⊢
    simp [ih]

theorem Path.phrase_strip (p : Path) : (p.strip chosen).phrase = p.phrase.strip chosen := by
  unfold Path.phrase Path.strip
  rw [Phrase.strip_append, ← Path.segmentsPhrase_strip]
  cases p.rooted <;> simp

theorem Argument.phrase_strip (a : Argument) :
    (a.strip chosen).phrase = a.phrase.strip chosen := by
  cases a with
  | none => rfl
  | list d opens closes tokens => rfl
  | value equals expression s => simp [Argument.strip, Argument.phrase]

theorem Entry.phrase_strip (e : Entry) : (e.strip chosen).phrase = e.phrase.strip chosen := by
  simp [Entry.strip, Entry.phrase, Path.phrase_strip, Argument.phrase_strip]

theorem Attribute.phrase_strip (a : Attribute) :
    (a.strip chosen).phrase = a.phrase.strip chosen := by
  unfold Attribute.phrase Attribute.strip
  cases a.inner <;> simp [Entry.phrase_strip]

theorem Attribute.phraseOf_strip (as : List Attribute) :
    Attribute.phraseOf (as.map (·.strip chosen)) = (Attribute.phraseOf as).strip chosen := by
  induction as with
  | nil => rfl
  | cons a as ih =>
    simp only [Attribute.phraseOf] at ih
    simp [Attribute.phraseOf, Attribute.phrase_strip, ih]

/-! ### Fields -/

theorem Attribute.trees_fieldPhrase (a : Attribute) : a.fieldPhrase.trees = a.phrase.trees := by
  simp [fieldPhrase, Phrase.trees, Part.treesOf, Part.trees]

/-- What stripping a phrase leaves of an attribute that is not chosen. -/
def Attribute.keptPhrase (a : Attribute) : Phrase :=
  [.fieldAttribute (a.tag?.map Ident.spelling) (a.phrase.strip chosen)]

theorem Attribute.strip_fieldPhrase (a : Attribute) : a.fieldPhrase.strip chosen =
    if (a.tag?.map Ident.spelling).any chosen then [] else a.keptPhrase chosen := by
  simp [fieldPhrase, keptPhrase, Phrase.strip, Part.stripAll, Part.strip]

theorem Attribute.trees_keptPhrase (a : Attribute) :
    (a.strip chosen).fieldPhrase.trees = (a.keptPhrase chosen).trees := by
  rw [Attribute.trees_fieldPhrase, Attribute.phrase_strip]
  simp [keptPhrase, Phrase.trees, Part.treesOf, Part.trees]

/-- The fields of a struct or a variant, in the order of their tokens. -/
def Fields.items : Fields → List FieldItem
  | named l => l.fields
  | tuple l => l.fields
  | unit => []

/-! ### Relations of phrases -/

/-- A relation of phrases that is kept when phrases are joined or put into groups. -/
structure Phrase.Congruence (R : Phrase → Phrase → Prop) : Prop where
  refl : ∀ p, R p p
  append : ∀ {p p' q q'}, R p p' → R q q' → R (p ++ q) (p' ++ q')
  group : ∀ d {p p'}, R p p' → R (Phrase.group d p) (Phrase.group d p')

theorem Phrase.congruence_trees : Phrase.Congruence fun p q => p.trees = q.trees where
  refl _ := rfl
  append hp hq := by rw [Phrase.trees_append, Phrase.trees_append, hp, hq]
  group d _ _ h := by rw [Phrase.trees_group, Phrase.trees_group, h]

theorem Phrase.congruence_eq : Phrase.Congruence Eq where
  refl _ := rfl
  append hp hq := by rw [hp, hq]
  group d _ _ h := by rw [h]

section Congruence

variable {chosen} {R : Phrase → Phrase → Prop} (hR : Phrase.Congruence R)
include hR

theorem Phrase.Congruence.intercalate (sep : Phrase) {ps qs : List Phrase}
    (h : List.Forall₂ R ps qs) : R (sep.intercalate ps) (sep.intercalate qs) := by
  induction h with
  | nil => exact hR.refl _
  | @cons p q ps qs hp hps ih =>
    cases hps with
    | nil => simpa using hp
    | cons hp' hps' =>
      rw [List.intercalate_cons_cons, List.intercalate_cons_cons]
      exact hR.append (hR.append hp (hR.refl sep)) ih

theorem FieldItem.related_attributes_strip {as : List Attribute}
    (h : ∀ a ∈ as, R (a.strip chosen).fieldPhrase (a.keptPhrase chosen)) :
    R (((as.filter fun a => !(a.tag?.map Ident.spelling).any chosen).map
      (·.strip chosen)).flatMap Attribute.fieldPhrase)
      (Phrase.strip chosen (as.flatMap Attribute.fieldPhrase)) := by
  induction as with
  | nil => exact hR.refl []
  | cons a as ih =>
    obtain ⟨ha, has⟩ := List.forall_mem_cons.1 h
    rw [List.flatMap_cons, Phrase.strip_append, Attribute.strip_fieldPhrase]
    by_cases hc : (a.tag?.map Ident.spelling).any chosen
    · rw [if_pos hc, List.filter_cons_of_neg (by simp [hc])]
      exact ih has
    · rw [if_neg hc, List.filter_cons_of_pos (by simp [hc]), List.map_cons, List.flatMap_cons]
      exact hR.append ha (ih has)

theorem FieldItem.related_strip {f : FieldItem}
    (h : ∀ a ∈ f.attributes, R (a.strip chosen).fieldPhrase (a.keptPhrase chosen)) :
    R (f.strip chosen).phrase (f.phrase.strip chosen) := by
  have attributes := FieldItem.related_attributes_strip hR h
  have name : (f.name.elim [] fun n => Phrase.ident n ++ Phrase.sign ":" : Phrase) =
      Phrase.strip chosen (f.name.elim [] fun n => Phrase.ident n ++ Phrase.sign ":") := by
    cases f.name <;> simp
  unfold FieldItem.phrase
  rw [Phrase.strip_append, Phrase.strip_append, Phrase.strip_append, ← name]
  exact hR.append (hR.append (hR.append attributes (hR.refl _)) (hR.refl _)) (hR.refl _)

theorem FieldList.related_strip {l : FieldList}
    (h : ∀ f ∈ l.fields, ∀ a ∈ f.attributes,
      R (a.strip chosen).fieldPhrase (a.keptPhrase chosen)) :
    R (l.strip chosen).phrase (l.phrase.strip chosen) := by
  have comma : Phrase.strip chosen (if l.trailing then Phrase.sign "," else []) =
      if l.trailing then Phrase.sign "," else [] := by
    split <;> simp
  have fields : List.Forall₂ R ((l.fields.map (·.strip chosen)).map FieldItem.phrase)
      ((l.fields.map FieldItem.phrase).map (Phrase.strip chosen)) := by
    rw [List.map_map, List.map_map, List.forall₂_map_left_iff, List.forall₂_map_right_iff,
      List.forall₂_same]
    exact fun f hf => FieldItem.related_strip hR (h f hf)
  unfold FieldList.phrase
  rw [Phrase.strip_append, Phrase.strip_intercalate, Phrase.strip_sign, comma]
  exact hR.append (hR.intercalate _ fields) (hR.refl _)

theorem Fields.related_strip {fs : Fields}
    (h : ∀ f ∈ fs.items, ∀ a ∈ f.attributes,
      R (a.strip chosen).fieldPhrase (a.keptPhrase chosen)) :
    R (fs.strip chosen).phrase (fs.phrase.strip chosen) := by
  cases fs with
  | named l => exact hR.group .brace (FieldList.related_strip hR h)
  | tuple l => exact hR.group .paren (FieldList.related_strip hR h)
  | unit => exact hR.refl []

/-- **A struct is stripped as its phrase is**, as far as the attributes of its fields are. -/
theorem StructItem.related_strip {s : StructItem}
    (h : ∀ f ∈ s.fields.items, ∀ a ∈ f.attributes,
      R (a.strip chosen).fieldPhrase (a.keptPhrase chosen)) :
    R (s.strip chosen).phrase (s.phrase.strip chosen) := by
  have clause : (s.clause.map (·.strip chosen)).getD [] = (s.clause.getD []).strip chosen := by
    cases s.clause <;> rfl
  have fields := Fields.related_strip hR h
  have head : ∀ {p q}, R p q → R
      (Attribute.phraseOf (s.attributes.map (·.strip chosen)) ++ s.visibility.strip chosen ++
        Phrase.word "struct" ++ Phrase.ident s.name ++ s.parameters.strip chosen ++ p)
      (Phrase.strip chosen (Attribute.phraseOf s.attributes ++ s.visibility ++
        Phrase.word "struct" ++ Phrase.ident s.name ++ s.parameters) ++ q) := by
    intro p q hpq
    simp only [Phrase.strip_append, Phrase.strip_word, Phrase.strip_ident,
      Attribute.phraseOf_strip]
    exact hR.append (hR.refl _) hpq
  unfold StructItem.phrase StructItem.strip
  dsimp only
  rw [clause, Phrase.strip_append]
  refine head ?_
  cases hs : s.fields with
  | named l =>
    rw [hs] at fields
    rw [Phrase.strip_append]
    exact hR.append (hR.refl _) fields
  | tuple l =>
    rw [hs] at fields
    rw [Phrase.strip_append, Phrase.strip_append, Phrase.strip_sign]
    exact hR.append (hR.append fields (hR.refl _)) (hR.refl _)
  | unit =>
    rw [Phrase.strip_append, Phrase.strip_sign]
    exact hR.refl _

end Congruence

/-! ### Items -/

/-- **An item loses the chosen attributes** of its fields as its phrase does. -/
theorem Item.trees_strip (i : Item) : (i.strip chosen).trees = (i.phrase.strip chosen).trees := by
  cases i with
  | struct s =>
    exact StructItem.related_strip Phrase.congruence_trees fun _ _ a _ => a.trees_keptPhrase chosen
  | other kind name visibility p => rfl

/-- **What is left of an item**: its tokens outside of all chosen field attributes. -/
theorem Item.tokens_strip (i : Item) : Token.ofTrees (i.strip chosen).trees =
    (i.phrase.placed.filter (Placed.isKept chosen)).map (·.token) := by
  rw [Item.trees_strip, ← Phrase.placed_strip, Phrase.map_token_placed]

end RequestGroups.Grammar
