import RequestGroups.Proofs.Grammar.Stripping

/-! # Field attributes that are left

What a phrase marks is described in two ways: by the list of its field attributes (`Phrase.marks`)
and by what stands in it at whatever depth (`Phrase.StandsIn`).

* `Phrase.marks_strip`: the field attributes that are not chosen are left, in their order and each
  stripped inside;
* `Phrase.isStripped_strip`: no chosen field attribute is left at any depth;
* `Fields.not_chosen_of_isStripped`: then no field that stands in the phrase has a chosen
  attribute. -/

namespace RequestGroups.Grammar

open RequestGroups.Source

variable {chosen : String → Bool}

/-! ### Lists of field attributes -/

/-- An attribute that is marked as standing on a field. -/
structure Mark where
  tag : Option String
  contents : Phrase

/-- Removes the chosen field attributes inside of the attribute. -/
def Mark.strip (chosen : String → Bool) (m : Mark) : Mark :=
  { m with contents := m.contents.strip chosen }

namespace Part

mutual

/-- The field attributes of an element, without those inside of other ones. -/
def marks : Part → List Mark
  | verbatim _ => []
  | group _ inner => marksOf inner
  | fieldAttribute tag inner => [⟨tag, inner⟩]

/-- The field attributes of a phrase, without those inside of other ones. -/
def marksOf : List Part → List Mark
  | [] => []
  | p :: ps => p.marks ++ marksOf ps

end

theorem marksOf_append (ps qs : List Part) : marksOf (ps ++ qs) = marksOf ps ++ marksOf qs := by
  induction ps with
  | nil => rfl
  | cons p ps ih => simp [marksOf, ih]

mutual

theorem marksOf_strip (chosen : String → Bool) (p : Part) : marksOf (p.strip chosen) =
    (p.marks.filter fun m => !m.tag.any chosen).map (·.strip chosen) := by
  match p with
  | verbatim t => rfl
  | group d inner =>
    rw [strip, marksOf, marks, marks, marksOf_stripAll chosen inner]
    exact List.append_nil _
  | fieldAttribute tag inner =>
    rw [strip, marks]
    by_cases h : tag.any chosen
    · rw [if_pos h, List.filter_cons_of_neg (by simp [h])]
      rfl
    · rw [if_neg h, List.filter_cons_of_pos (by simp [h])]
      rfl

theorem marksOf_stripAll (chosen : String → Bool) (ps : List Part) :
    marksOf (stripAll chosen ps) =
      ((marksOf ps).filter fun m => !m.tag.any chosen).map (·.strip chosen) := by
  match ps with
  | [] => rfl
  | p :: ps =>
    rw [stripAll, marksOf_append, marksOf_strip chosen p, marksOf_stripAll chosen ps, marksOf,
      List.filter_append, List.map_append]

end

/-! ### Field attributes at any depth -/

mutual

/-- Whether the element has no chosen field attribute, at whatever depth. -/
def isStripped (chosen : String → Bool) : Part → Bool
  | verbatim _ => true
  | group _ inner => areStripped chosen inner
  | fieldAttribute tag inner => !tag.any chosen && areStripped chosen inner

/-- Whether the elements have no chosen field attribute, at whatever depth. -/
def areStripped (chosen : String → Bool) : List Part → Bool
  | [] => true
  | p :: ps => p.isStripped chosen && areStripped chosen ps

end

theorem areStripped_append (ps qs : List Part) :
    areStripped chosen (ps ++ qs) = (areStripped chosen ps && areStripped chosen qs) := by
  induction ps with
  | nil => rfl
  | cons p ps ih => simp [areStripped, ih, Bool.and_assoc]

mutual

theorem areStripped_strip (chosen : String → Bool) (p : Part) :
    areStripped chosen (p.strip chosen) := by
  match p with
  | verbatim t => rfl
  | group d inner => simp [strip, areStripped, isStripped, areStripped_stripAll chosen inner]
  | fieldAttribute tag inner =>
    rw [strip]
    split
    · rfl
    · next h => simp [areStripped, isStripped, h, areStripped_stripAll chosen inner]

theorem areStripped_stripAll (chosen : String → Bool) (ps : List Part) :
    areStripped chosen (stripAll chosen ps) := by
  match ps with
  | [] => rfl
  | p :: ps =>
    rw [stripAll, areStripped_append, areStripped_strip chosen p, areStripped_stripAll chosen ps]
    rfl

end

end Part

namespace Phrase

/-- The field attributes of the phrase, without those inside of other ones. -/
def marks (p : Phrase) : List Mark := Part.marksOf p

/-- **The field attributes that are left**: those that are not chosen, each without the chosen ones
inside of it. -/
theorem marks_strip (chosen : String → Bool) (p : Phrase) :
    (p.strip chosen).marks = (p.marks.filter fun m => !m.tag.any chosen).map (·.strip chosen) :=
  Part.marksOf_stripAll chosen p

/-- Whether the phrase has no chosen field attribute, at whatever depth. -/
def isStripped (chosen : String → Bool) (p : Phrase) : Bool := Part.areStripped chosen p

/-- **No chosen field attribute is left**, at any depth. -/
theorem isStripped_strip (chosen : String → Bool) (p : Phrase) :
    (p.strip chosen).isStripped chosen :=
  Part.areStripped_stripAll chosen p

@[simp] theorem isStripped_append (p q : Phrase) :
    isStripped chosen (p ++ q) = (isStripped chosen p && isStripped chosen q) :=
  Part.areStripped_append p q

@[simp] theorem isStripped_group (d : Delimiter) (p : Phrase) :
    isStripped chosen (group d p) = isStripped chosen p := by
  change (isStripped chosen p && true) = isStripped chosen p
  rw [Bool.and_true]

@[simp] theorem isStripped_fieldAttribute (tag : Option String) (p : Phrase) :
    isStripped chosen [.fieldAttribute tag p] = (!tag.any chosen && isStripped chosen p) :=
  Bool.and_true _

theorem isStripped_flatMap {f : α → Phrase} {as : List α} :
    isStripped chosen (as.flatMap f) ↔ ∀ a ∈ as, isStripped chosen (f a) := by
  induction as with
  | nil => simp [isStripped, Part.areStripped]
  | cons a as ih => simp [ih]

theorem isStripped_of_intercalate {sep : Phrase} {ps : List Phrase}
    (h : isStripped chosen (sep.intercalate ps)) : ∀ p ∈ ps, isStripped chosen p := by
  induction ps with
  | nil => exact List.forall_mem_nil _
  | cons p ps ih =>
    cases ps with
    | nil => simpa using h
    | cons q qs =>
      simp only [List.intercalate_cons_cons, isStripped_append, Bool.and_eq_true] at h
      obtain ⟨⟨hp, -⟩, hps⟩ := h
      exact List.forall_mem_cons.2 ⟨hp, ih hps⟩

/-- A phrase that stands in another one, in its groups and field attributes. -/
inductive StandsIn (q : Phrase) : Phrase → Prop where
  | here (before after : Phrase) : StandsIn q (before ++ q ++ after)
  | group (before after : Phrase) (d : Delimiter) {inner : Phrase} (h : StandsIn q inner) :
    StandsIn q (before ++ Phrase.group d inner ++ after)
  | mark (before after : Phrase) (tag : Option String) {inner : Phrase} (h : StandsIn q inner) :
    StandsIn q (before ++ [.fieldAttribute tag inner] ++ after)

theorem isStripped_of_standsIn {p q : Phrase} (h : q.StandsIn p) (hp : p.isStripped chosen) :
    q.isStripped chosen := by
  induction h with
  | here before after =>
    simp only [isStripped_append, Bool.and_eq_true] at hp
    exact hp.1.2
  | group before after d h ih =>
    simp only [isStripped_append, isStripped_group, Bool.and_eq_true] at hp
    exact ih hp.1.2
  | mark before after tag h ih =>
    simp only [isStripped_append, isStripped_fieldAttribute, Bool.and_eq_true] at hp
    exact ih hp.1.2.2

end Phrase

/-! ### Fields that stand in a phrase -/

theorem FieldItem.not_chosen_of_isStripped {f : FieldItem} (h : f.phrase.isStripped chosen) :
    ∀ a ∈ f.attributes, (a.tag?.map Ident.spelling).any chosen = false := by
  simp only [phrase, Phrase.isStripped_append, Bool.and_eq_true] at h
  obtain ⟨⟨⟨attributes, -⟩, -⟩, -⟩ := h
  intro a ha
  have marked := Phrase.isStripped_flatMap.1 attributes a ha
  rw [Attribute.fieldPhrase, Phrase.isStripped_fieldAttribute, Bool.and_eq_true,
    Bool.not_eq_true'] at marked
  exact marked.1

theorem FieldList.isStripped_of_mem {l : FieldList} (h : l.phrase.isStripped chosen) :
    ∀ f ∈ l.fields, f.phrase.isStripped chosen := by
  rw [phrase, Phrase.isStripped_append, Bool.and_eq_true] at h
  exact List.forall_mem_map.1 (Phrase.isStripped_of_intercalate h.1)

/-- **No field has a chosen attribute** if none is left in the phrase of the fields. -/
theorem Fields.not_chosen_of_isStripped {fs : Fields} (h : fs.phrase.isStripped chosen) :
    ∀ f ∈ fs.items, ∀ a ∈ f.attributes, (a.tag?.map Ident.spelling).any chosen = false := by
  have items : ∀ f ∈ fs.items, f.phrase.isStripped chosen := by
    cases fs with
    | named l => exact FieldList.isStripped_of_mem ((Phrase.isStripped_group _ _).symm.trans h)
    | tuple l => exact FieldList.isStripped_of_mem ((Phrase.isStripped_group _ _).symm.trans h)
    | unit => exact List.forall_mem_nil _
  exact fun f hf => FieldItem.not_chosen_of_isStripped (items f hf)

end RequestGroups.Grammar
