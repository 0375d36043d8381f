import RequestGroups.Proofs.Grammar.Marks
import RequestGroups.Proofs.Grammar.StructForm

/-! # Paths of field attributes

The path of an attribute that is read consists of names alone, so it has no fields inside. That
holds of all attributes on the fields of an item that is read (`Item.flatPaths_of_read`), whether
the fields stand in braces or in parentheses. -/

namespace RequestGroups.Grammar

open RequestGroups.Source Reader

/-- The paths of the attributes have no fields inside. -/
def FieldItem.FlatPaths (f : FieldItem) : Prop := ∀ a ∈ f.attributes, a.path.phrase.isFlat

/-- The attributes on the fields of a struct have paths without fields inside; of any other item
nothing is asked. -/
def Item.FlatPaths : Item → Prop
  | struct s => ∀ f ∈ s.fields.items, f.FlatPaths
  | other .. => True

namespace Rules

variable {g : Nonterminals}

theorem gives_entryPath : Gives (fun p : Path => p.phrase.isFlat) entryPath := by
  refine Gives.bind fun isUnsafe => Gives.ite (Gives.bind fun name => Gives.pure ?_) gives_modPath
  exact Path.isFlat_phrase.2 (List.forall_mem_singleton.2 rfl)

theorem gives_entry : Gives (fun e : Entry => e.path.phrase.isFlat) (entry g) := by
  intro i e k h
  obtain ⟨⟨⟨path, argument⟩, span⟩, j, hspanned, he⟩ := bind_eq_ok.1 h
  cases he
  unfold spanned at hspanned
  split at hspanned
  · next hparts =>
    cases hspanned
    obtain ⟨p, l, hp, hrest⟩ := bind_eq_ok.1 hparts
    obtain ⟨argument, m, -, hpair⟩ := bind_eq_ok.1 hrest
    cases hpair
    exact gives_entryPath _ _ _ hp
  · exact absurd hspanned nofun

theorem gives_outerAttribute :
    Gives (fun a : Attribute => a.path.phrase.isFlat) (outerAttribute g) :=
  Gives.bind fun _ => gives_entry.inGroup.map fun _ he => he

theorem gives_outerAttributes :
    Gives (fun as : List Attribute => ∀ a ∈ as, a.path.phrase.isFlat) (outerAttributes g) := by
  intro i as j h
  refine iterate_induction (P := fun done _ => ∀ a ∈ done, a.path.phrase.isFlat) ?_ h nofun
  intro done k o l hdone hstep
  obtain ⟨more, k, -, hstep⟩ := bind_eq_ok.1 hstep
  split at hstep
  · cases hstep
    exact hdone
  · obtain ⟨a, m, ha, hstep⟩ := bind_eq_ok.1 hstep
    cases hstep
    have last := gives_outerAttribute _ _ _ ha
    exact List.forall_mem_append.2 ⟨hdone, List.forall_mem_singleton.2 last⟩

theorem flatPaths_namedFieldWith {nested : Reader FieldItem} :
    Gives FieldItem.FlatPaths (namedFieldWith g nested) :=
  gives_namedFieldWith_parts gives_outerAttributes gives_visibility fun _ _ _ _ has _ => has

theorem flatPaths_tupleField : Gives FieldItem.FlatPaths (tupleField g) :=
  gives_outerAttributes.andThen fun _ has => Gives.bind fun _ => Gives.bind fun _ => Gives.pure has

theorem flatPaths_structItem {as : List Attribute} :
    Gives (fun s => ∀ f ∈ s.fields.items, f.FlatPaths) (structItem g as) := by
  have body : Gives (fun b => ∀ f ∈ b.2.items, f.FlatPaths) (structBody g) :=
    gives_structBody (P := fun fs => ∀ f ∈ fs.items, f.FlatPaths)
      (gives_namedFields fun _ => flatPaths_namedFieldWith)
      (gives_fieldList flatPaths_tupleField).inGroup (List.forall_mem_nil _)
  refine Gives.bind fun v => Gives.bind fun _ => Gives.bind fun name => Gives.bind fun ps => ?_
  exact body.andThen fun b hb => Gives.pure hb

end Rules

/-- **The paths of field attributes** of an item that is read have no fields inside. -/
theorem Item.flatPaths_of_read {ts : List TokenTree} {i : Item} (h : Item.read ts = .ok i) :
    i.FlatPaths := by
  cases i with
  | struct s =>
    exact Item.of_read (P := fun s => ∀ f ∈ s.fields.items, f.FlatPaths)
      (fun _ _ => Rules.flatPaths_structItem) h
  | other kind name visibility p => trivial

end RequestGroups.Grammar
