import RequestGroups.Grammar.Item

/-! # Phrases without field attributes

A phrase is flat if it marks no attribute of a field, at whatever depth; a phrase without any
struct, union or enum inside is flat. Removing field attributes leaves flat phrases as they are, and
also the attributes whose phrases are flat.

* `Phrase.strip_of_isFlat`, `Attribute.strip_of_isFlat`: nothing is removed;
* `StructItem.IsFlat` asks that the attributes of a struct and the attributes and types of its
  fields are flat. -/

namespace RequestGroups.Grammar

open RequestGroups.Source

/-! ### Phrases -/

namespace Part

mutual

/-- Whether the element marks no attribute of a field. -/
def isFlat : Part → Bool
  | verbatim _ => true
  | group _ inner => areFlat inner
  | fieldAttribute _ _ => false

/-- Whether the elements mark no attribute of a field. -/
def areFlat : List Part → Bool
  | [] => true
  | p :: ps => p.isFlat && areFlat ps

end

mutual

theorem strip_of_isFlat (chosen : String → Bool) (p : Part) (h : p.isFlat) :
    p.strip chosen = [p] := by
  match p with
  | verbatim t => rfl
  | group d inner => rw [strip, stripAll_of_areFlat chosen inner h]
  | fieldAttribute tag inner => exact absurd h Bool.false_ne_true

theorem stripAll_of_areFlat (chosen : String → Bool) (ps : List Part) (h : areFlat ps) :
    stripAll chosen ps = ps := by
  match ps with
  | [] => rfl
  | p :: ps =>
    obtain ⟨hp, hps⟩ := Bool.and_eq_true_iff.1 h
    rw [stripAll, strip_of_isFlat chosen p hp, stripAll_of_areFlat chosen ps hps]
    rfl

end

end Part

namespace Phrase

/-- Whether the phrase marks no attribute of a field. -/
def isFlat (p : Phrase) : Bool := Part.areFlat p

/-- **Nothing is removed** from a flat phrase. -/
theorem strip_of_isFlat {p : Phrase} (h : p.isFlat) (chosen : String → Bool) :
    p.strip chosen = p :=
  Part.stripAll_of_areFlat chosen p h

@[simp] theorem isFlat_nil : isFlat [] = true := rfl

@[simp] theorem isFlat_append (p q : Phrase) : isFlat (p ++ q) = (isFlat p && isFlat q) := by
  induction p with
  | nil => rfl
  | cons x p ih =>
    change (x.isFlat && isFlat (p ++ q)) = (x.isFlat && isFlat p && isFlat q)
    rw [ih, Bool.and_assoc]

@[simp] theorem isFlat_verbatim (ts : List TokenTree) : isFlat (verbatim ts) = true := by
  induction ts with
  | nil => rfl
  | cons t ts ih => exact ih

@[simp] theorem isFlat_ident (i : Ident) : isFlat (ident i) = true := rfl

@[simp] theorem isFlat_sign (text : String) : isFlat (sign text) = true := isFlat_verbatim _

@[simp] theorem isFlat_group (d : Delimiter) (p : Phrase) : isFlat (group d p) = p.isFlat := by
  change (p.isFlat && true) = p.isFlat
  rw [Bool.and_true]

end Phrase

/-! ### Attributes -/

theorem Path.isFlat_segmentsPhrase : ∀ segments : List PathSegment,
    (segmentsPhrase segments).isFlat ↔ ∀ s ∈ segments, s.arguments.isFlat
  | [] => by simp [segmentsPhrase]
  | [s] => by simp [segmentsPhrase]
  | s :: s' :: rest => by
    have ih := isFlat_segmentsPhrase (s' :: rest)
    simp only [segmentsPhrase, Phrase.isFlat_append, Phrase.isFlat_ident, Phrase.isFlat_sign,
      Bool.true_and, Bool.and_true, Bool.and_eq_true, List.forall_mem_cons] at ih ⊢
    rw [ih]

/-- The phrase of a path is flat if the arguments of its names are. -/
theorem Path.isFlat_phrase {p : Path} :
    p.phrase.isFlat ↔ ∀ s ∈ p.segments, s.arguments.isFlat := by
  have root : (if p.rooted then Phrase.sign "::" else []).isFlat = true := by
    split
    · exact Phrase.isFlat_sign _
    · rfl
  rw [phrase, Phrase.isFlat_append, root, Bool.true_and, isFlat_segmentsPhrase]

theorem Path.strip_of_isFlat {p : Path} (h : p.phrase.isFlat) (chosen : String → Bool) :
    p.strip chosen = p := by
  have same : ∀ s ∈ p.segments, { s with arguments := s.arguments.strip chosen } = s := by
    intro s hs
    rw [Phrase.strip_of_isFlat (isFlat_phrase.1 h s hs)]
  rw [strip, List.map_congr_left same, List.map_id']

theorem Argument.strip_of_isFlat {a : Argument} (h : a.phrase.isFlat) (chosen : String → Bool) :
    a.strip chosen = a := by
  cases a with
  | none => rfl
  | list d opens closes tokens => rfl
  | value equals expression s =>
    rw [phrase, Phrase.isFlat_append, Phrase.isFlat_sign, Bool.true_and] at h
    rw [strip, Phrase.strip_of_isFlat h]

namespace Attribute

/-- Whether no attribute of a field is marked inside of the attribute. -/
def isFlat (a : Attribute) : Bool := a.phrase.isFlat

/-- **Nothing is removed** from a flat attribute. -/
theorem strip_of_isFlat {a : Attribute} (h : a.isFlat) (chosen : String → Bool) :
    a.strip chosen = a := by
  simp only [isFlat, phrase, Entry.phrase, Phrase.isFlat_append, Phrase.isFlat_group,
    Bool.and_eq_true] at h
  obtain ⟨-, path, argument⟩ := h
  rw [strip, Entry.strip, Path.strip_of_isFlat path, Argument.strip_of_isFlat argument]

theorem map_strip_of_isFlat {as : List Attribute} (h : ∀ a ∈ as, a.isFlat)
    (chosen : String → Bool) : as.map (·.strip chosen) = as := by
  rw [List.map_congr_left fun a ha => strip_of_isFlat (h a ha) chosen, List.map_id']

end Attribute

/-! ### Structs -/

/-- No attribute and no type of the field has fields of its own with attributes. -/
structure FieldItem.IsFlat (f : FieldItem) : Prop where
  attributes : ∀ a ∈ f.attributes, a.isFlat
  type : f.type.isFlat

/-- No attribute of the struct, and no attribute or type of a field in braces has fields of its own
with attributes. -/
structure StructItem.IsFlat (s : StructItem) : Prop where
  attributes : ∀ a ∈ s.attributes, a.isFlat
  fields : ∀ l, s.fields = .named l → ∀ f ∈ l.fields, f.IsFlat

end RequestGroups.Grammar
