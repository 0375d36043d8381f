import RequestGroups.Proofs.Grammar.FieldPaths

/-! # Stripping twice

Stripping an item of the field attributes that one predicate chooses and then of those that another
one chooses is stripping it once of those that either chooses (`Item.strip_strip`); where nothing is
chosen, nothing is stripped (`Item.strip_none`).

An attribute that is left is stripped inside, and the next pass goes by its tag again. The tag is
still the same because its path has no fields inside (`Item.FlatPaths`); then the phrase of the
stripped item is the stripped phrase (`Item.phrase_strip`), marks included. -/

namespace RequestGroups.Grammar

open RequestGroups.Source

variable {c d : String → Bool}

/-- What is chosen by one of two predicates. -/
def eitherOf (c d : String → Bool) : String → Bool := fun tag => c tag || d tag

theorem any_eitherOf (tag : Option String) : tag.any (eitherOf c d) = (tag.any c || tag.any d) := by
  cases tag <;> rfl

/-! ### Phrases -/

namespace Part

mutual

theorem stripAll_strip (c d : String → Bool) (p : Part) :
    stripAll d (p.strip c) = p.strip (eitherOf c d) := by
  match p with
  | verbatim t => rfl
  | group delimiter inner => simp [strip, stripAll, stripAll_stripAll c d inner]
  | fieldAttribute tag inner =>
    rw [strip, strip, any_eitherOf]
    cases hc : tag.any c
    · cases hd : tag.any d
      · simp [stripAll, strip, hd, stripAll_stripAll c d inner]
      · simp [stripAll, strip, hd]
    · rfl

theorem stripAll_stripAll (c d : String → Bool) (ps : List Part) :
    stripAll d (stripAll c ps) = stripAll (eitherOf c d) ps := by
  match ps with
  | [] => rfl
  | p :: ps =>
    have append : stripAll d (p.strip c ++ stripAll c ps) =
        stripAll d (p.strip c) ++ stripAll d (stripAll c ps) := Phrase.strip_append d _ _
    rw [stripAll, append, stripAll_strip c d p, stripAll_stripAll c d ps, stripAll]

end

mutual

theorem strip_none (p : Part) : p.strip (fun _ => false) = [p] := by
  match p with
  | verbatim t => rfl
  | group delimiter inner => rw [strip, stripAll_none inner]
  | fieldAttribute tag inner =>
    have notChosen : ¬ tag.any fun _ => false := by cases tag <;> exact Bool.false_ne_true
    rw [strip, if_neg notChosen, stripAll_none inner]

theorem stripAll_none (ps : List Part) : stripAll (fun _ => false) ps = ps := by
  match ps with
  | [] => rfl
  | p :: ps =>
    rw [stripAll, strip_none p, stripAll_none ps]
    rfl

end

end Part

theorem Phrase.strip_strip (p : Phrase) : (p.strip c).strip d = p.strip (eitherOf c d) :=
  Part.stripAll_stripAll c d p

theorem Phrase.strip_none (p : Phrase) : p.strip (fun _ => false) = p := Part.stripAll_none p

/-! ### Attributes -/

theorem Path.strip_strip (p : Path) : (p.strip c).strip d = p.strip (eitherOf c d) := by
  simp [strip, Phrase.strip_strip]

theorem Path.strip_none (p : Path) : p.strip (fun _ => false) = p := by
  simp [strip, Phrase.strip_none]

theorem Argument.strip_strip (a : Argument) : (a.strip c).strip d = a.strip (eitherOf c d) := by
  cases a with
  | none => rfl
  | list delimiter opens closes tokens => rfl
  | value equals expression s => simp [strip, Phrase.strip_strip]

theorem Argument.strip_none (a : Argument) : a.strip (fun _ => false) = a := by
  cases a with
  | none => rfl
  | list delimiter opens closes tokens => rfl
  | value equals expression s => simp [strip, Phrase.strip_none]

namespace Attribute

theorem strip_strip (a : Attribute) : (a.strip c).strip d = a.strip (eitherOf c d) := by
  simp [strip, Entry.strip, Path.strip_strip, Argument.strip_strip]

theorem strip_none (a : Attribute) : a.strip (fun _ => false) = a := by
  simp [strip, Entry.strip, Path.strip_none, Argument.strip_none]

/-- An attribute that is stripped inside keeps its tag. -/
theorem tag?_strip {a : Attribute} (h : a.path.phrase.isFlat) (c : String → Bool) :
    (a.strip c).tag? = a.tag? :=
  congrArg Path.ident? (Path.strip_of_isFlat h c)

/-- An attribute that is left is marked with the tag that it had. -/
theorem fieldPhrase_strip {a : Attribute} (h : a.path.phrase.isFlat) (c : String → Bool) :
    (a.strip c).fieldPhrase = a.keptPhrase c := by
  rw [fieldPhrase, keptPhrase, tag?_strip h, phrase_strip]

end Attribute

/-! ### Fields -/

namespace FieldItem

variable {f : FieldItem}

theorem attributes_strip_strip (h : f.FlatPaths) :
    ((f.strip c).strip d).attributes = (f.strip (eitherOf c d)).attributes := by
  -- the second pass sees the tags that the first one saw
  have sameTags : ∀ a ∈ f.attributes.filter fun a => !(a.tag?.map Ident.spelling).any c,
      (!((a.strip c).tag?.map Ident.spelling).any d) =
        !(a.tag?.map Ident.spelling).any d := by
    intro a ha
    rw [Attribute.tag?_strip (h a (List.mem_filter.1 ha).1)]
  simp only [strip, List.filter_map, List.map_map, Function.comp_def, Attribute.strip_strip]
  rw [List.filter_congr sameTags, List.filter_filter]
  congr 1
  refine List.filter_congr fun a _ => ?_
  rw [any_eitherOf, Bool.not_or, Bool.and_comm]

theorem strip_strip (h : f.FlatPaths) : (f.strip c).strip d = f.strip (eitherOf c d) := by
  have attributes := attributes_strip_strip (c := c) (d := d) h
  simp only [strip] at attributes ⊢
  rw [attributes, Phrase.strip_strip, Phrase.strip_strip]

theorem strip_none (f : FieldItem) : f.strip (fun _ => false) = f := by
  have kept : f.attributes.filter (fun a => !(a.tag?.map Ident.spelling).any fun _ => false) =
      f.attributes := by
    refine List.filter_eq_self.2 fun a _ => ?_
    cases a.tag? <;> rfl
  simp only [strip, kept, Attribute.strip_none, Phrase.strip_none, List.map_id']

end FieldItem

namespace FieldList

variable {l : FieldList}

theorem strip_strip (h : ∀ f ∈ l.fields, f.FlatPaths) :
    (l.strip c).strip d = l.strip (eitherOf c d) := by
  have fields : l.fields.map (fun f => (f.strip c).strip d) =
      l.fields.map (·.strip (eitherOf c d)) :=
    List.map_congr_left fun f hf => FieldItem.strip_strip (h f hf)
  simp only [strip, List.map_map, Function.comp_def, fields]

theorem strip_none (l : FieldList) : l.strip (fun _ => false) = l := by
  simp only [strip, FieldItem.strip_none, List.map_id']

end FieldList

namespace Fields

variable {fs : Fields}

theorem strip_strip (h : ∀ f ∈ fs.items, f.FlatPaths) :
    (fs.strip c).strip d = fs.strip (eitherOf c d) := by
  cases fs with
  | named l => exact congrArg named (FieldList.strip_strip h)
  | tuple l => exact congrArg tuple (FieldList.strip_strip h)
  | unit => rfl

theorem strip_none (fs : Fields) : fs.strip (fun _ => false) = fs := by
  cases fs with
  | named l => exact congrArg named (FieldList.strip_none l)
  | tuple l => exact congrArg tuple (FieldList.strip_none l)
  | unit => rfl

end Fields

/-! ### Items -/

namespace StructItem

variable {s : StructItem}

theorem strip_strip (h : ∀ f ∈ s.fields.items, f.FlatPaths) :
    (s.strip c).strip d = s.strip (eitherOf c d) := by
  simp only [strip, Fields.strip_strip h, List.map_map, Option.map_map, Function.comp_def,
    Attribute.strip_strip, Phrase.strip_strip]

theorem strip_none (s : StructItem) : s.strip (fun _ => false) = s := by
  simp only [strip, Fields.strip_none, Attribute.strip_none, Phrase.strip_none, List.map_id',
    Option.map_id']

end StructItem

namespace Item

variable {i : Item}

/-- **Stripping twice** is stripping once of what either pass removes. -/
theorem strip_strip (h : i.FlatPaths) : (i.strip c).strip d = i.strip (eitherOf c d) := by
  cases i with
  | struct s => exact congrArg struct (StructItem.strip_strip h)
  | other kind name visibility p => simp only [strip, Phrase.strip_strip]

theorem strip_none (i : Item) : i.strip (fun _ => false) = i := by
  cases i with
  | struct s => exact congrArg struct (StructItem.strip_none s)
  | other kind name visibility p => simp only [strip, Phrase.strip_none]

/-- **The phrase of a stripped item** is its stripped phrase. -/
theorem phrase_strip (h : i.FlatPaths) : (i.strip c).phrase = i.phrase.strip c := by
  cases i with
  | struct s =>
    exact StructItem.related_strip Phrase.congruence_eq fun f hf a ha =>
      Attribute.fieldPhrase_strip (h f hf a ha) c
  | other kind name visibility p => rfl

end Item

end RequestGroups.Grammar
