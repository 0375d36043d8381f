import RequestGroups.Proofs.Declaration.SourceFields
import RequestGroups.Proofs.Grammar.StructReading

/-! # Places that no token has

Attributes and fields that are written with the same tokens are the same up to places that none of
the tokens has. Such places do not count for a declaration: markers, entries of attribute lists and
derives stay the same.

* `fieldsOf_placeless`: fields with the same tokens are declared alike;
* `Derives.ofAttributes_placeless`: attributes with the same tokens list the same derives. -/

namespace RequestGroups

open Source Grammar

variable {t : MarkerTable}

/-! ### Fields -/

theorem MarkerTable.marker?_placeless (a : Attribute) : t.marker? a.placeless = t.marker? a := by
  obtain ⟨inner, path, argument, here⟩ := a
  cases argument <;> rfl

theorem entries?_placeless (a : Attribute) : a.placeless.entries? = a.entries? := by
  obtain ⟨inner, path, argument, here⟩ := a
  cases argument <;> rfl

/-- The field without the places that no token of it has. -/
def Field.placeless (f : Field) : Field :=
  { f with attributes := f.attributes.map Attribute.placeless }

theorem Field.ofItem?_placeless (f : FieldItem) :
    (ofItem? t f).map Field.placeless = ofItem? t f.placeless := by
  obtain ⟨as, v, _ | name, τ⟩ := f
  · rfl
  · have markers : (as.map Attribute.placeless).filterMap t.marker? = as.filterMap t.marker? := by
      rw [List.filterMap_map]
      exact List.filterMap_congr fun a _ => MarkerTable.marker?_placeless a
    have kept : (as.map Attribute.placeless).filter (fun a => !t.isMarker a) =
        (as.filter fun a => !t.isMarker a).map Attribute.placeless := List.filter_map
    simp [ofItem?, FieldItem.placeless, Field.placeless, markers, kept]

/-- Fields are the same up to places if they are written with the same tokens. -/
theorem fieldsOf_placeless {as bs : List FieldItem}
    (h : bs.map FieldItem.placeless = as.map FieldItem.placeless) :
    (bs.filterMap (Field.ofItem? t)).map Field.placeless =
      (as.filterMap (Field.ofItem? t)).map Field.placeless := by
  have through : ∀ l : List FieldItem, (l.filterMap (Field.ofItem? t)).map Field.placeless =
      (l.map FieldItem.placeless).filterMap (Field.ofItem? t) := by
    intro l
    rw [List.map_filterMap, List.filterMap_map]
    exact List.filterMap_congr fun f _ => Field.ofItem?_placeless f
  rw [through, through, h]

/-! ### Derives -/

namespace Derives

/-- An attribute that lists derives lists the same ones wherever it stands. -/
theorem ofAttribute_placeless {a b : Attribute} (h : b.placeless = a.placeless)
    {paths : List Path} (ha : ofAttribute a = .ok paths) : ofAttribute b = .ok paths := by
  obtain ⟨inner, path, argument, here⟩ := a
  obtain ⟨inner', path', argument', here'⟩ := b
  have arguments : argument'.placeless = argument.placeless := congrArg (·.entry.argument) h
  cases argument with
  | none => exact absurd ha nofun
  | value equals expression string? => exact absurd ha nofun
  | list d opens closes tokens =>
    cases argument' with
    | none => exact absurd arguments nofun
    | value equals expression string? => exact absurd arguments nofun
    | list d' opens' closes' tokens' =>
      cases arguments
      exact ha

theorem mapM_ofAttribute {as bs : List Attribute}
    (h : List.Forall₂ (fun a b => b.placeless = a.placeless) as bs) {paths : List (List Path)}
    (has : as.mapM ofAttribute = .ok paths) : bs.mapM ofAttribute = .ok paths := by
  induction h generalizing paths with
  | nil => exact has
  | @cons a b as bs hab _ ih =>
    rw [List.mapM_cons] at has ⊢
    obtain ⟨p, hp, has⟩ := Outcome.bind_eq_ok.1 has
    obtain ⟨ps, hps, has⟩ := Outcome.bind_eq_ok.1 has
    cases has
    rw [ofAttribute_placeless hab hp, ih hps]
    rfl

theorem ofAttributes_placeless {as bs : List Attribute}
    (h : List.Forall₂ (fun a b => b.placeless = a.placeless) as bs) {paths : List Path}
    (has : ofAttributes as = .ok paths) : ofAttributes bs = .ok paths := by
  have derives : List.Forall₂ (fun a b : Attribute => b.placeless = a.placeless)
      (as.filter isDerive) (bs.filter isDerive) := by
    refine List.rel_filter (fun a b hab => ?_) h
    have path : b.placeless.path = a.placeless.path := congrArg Attribute.path hab
    exact Iff.of_eq (congrArg (fun p : Path => (p.isName "derive" : Prop)) path.symm)
  obtain ⟨ps, hps, has⟩ := Outcome.bind_eq_ok.1 has
  cases has
  rw [ofAttributes, mapM_ofAttribute derives hps]
  rfl

end Derives

end RequestGroups
