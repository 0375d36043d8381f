import RequestGroups.Expansion.Code
import RequestGroups.Proofs.Expansion.Acceptance
import RequestGroups.Proofs.Search

/-! # The shape of an expansion

What the parts of an expansion are, field by field: the records and the parameters list the fields
of a group, and the accessors all annotated fields in the order of the declaration. -/

namespace RequestGroups

open Source Grammar

variable {d : Declaration} {c : Config}

/-- The field of a record that an annotated field becomes. -/
def Field.grouped (t : MarkerTable) (f : Field) : GroupField :=
  ⟨f.name, f.type, f.keyIn t, f.otherAttributes⟩

/-- The parameter for an annotated field. -/
def Field.parameter (f : Field) : Parameter := ⟨f.name, f.type⟩

namespace Declaration

/-- The expansion of the split of the fields. -/
def expansion (d : Declaration) (c : Config) : Expansion :=
  d.expansionOf (.split c.markers d.fields) c

/-- The fields of a group of a declaration. -/
abbrev members (d : Declaration) (c : Config) (r : Role) : List Field :=
  group c.markers d.fields r

/-- The fields of a declaration that belong to no group. -/
abbrev plainFields (d : Declaration) (c : Config) : List Field := plainOf c.markers d.fields

theorem expand_eq_expansion {e : Expansion} (h : d.expand c = .ok e) :
    d.Acceptable (Entry.isRename ·) c ∧ e = d.expansion c :=
  expand_eq_ok.1 h

@[simp] theorem fieldOf_expansion (r : Role) :
    (d.expansion c).storage.fieldOf r = c.storage r := by
  cases r <;> rfl

theorem record_expansion (r : Role) : (d.expansion c).record r =
    ⟨c.groupName d.name r, r, (d.members c r).map (Field.grouped c.markers)⟩ := by
  cases r <;> simp [expansion, expansionOf, Expansion.record, GroupRecord.ofFields,
    Partition.split, Function.comp_def, GroupRecord.fieldOf, Field.grouped]

theorem parameters_expansion : (d.expansion c).constructor.parameters =
    (Role.all.flatMap (d.members c)).map Field.parameter := by
  simp [expansion, expansionOf, Constructor.ofPartition, Constructor.parameters,
    Constructor.parametersOf, Partition.split, Role.all]
  rfl

theorem arity_expansion :
    (d.expansion c).constructor.arity = (Role.all.flatMap (d.members c)).length := by
  have h := congrArg List.length (parameters_expansion (d := d) (c := c))
  simpa [Constructor.parameters, Constructor.arity] using h

theorem names_groupLiteral (r : Role) :
    ((d.expansion c).groupLiteral r).names = (d.members c r).map (·.name) := by
  cases r <;> simp [Expansion.groupLiteral, expansion, expansionOf, Constructor.ofPartition,
    Constructor.parametersOf, Partition.split, Function.comp_def]

theorem fields_constructorCode : (d.expansion c).constructorCode.fields =
    Role.all.map (fun r => (c.storage r, .group ((d.expansion c).groupLiteral r))) ++
      (d.plainFields c).map fun f => (f.name, .default) := by
  simp [Expansion.constructorCode, expansion, expansionOf, Constructor.ofPartition,
    Partition.split, Role.all, Storage.fieldOf, Config.storage]

/-- **The accessors** are those of the annotated fields, in the order of the declaration. -/
theorem accessors_expansion (h : (d.fields.map (·.name.name)).Nodup) :
    (d.expansion c).accessors = d.fields.filterMap fun f =>
      (f.role? c.markers).map fun r => Accessor.ofField (f.classified c.markers r) := by
  refine List.filterMap_congr fun f hf => ?_
  rcases hr : f.role? c.markers with _ | r
  · -- a member of the same name would be the field itself
    have none : ∀ m ∈ (Partition.split c.markers d.fields).annotated,
        ¬ m.field.name.same f.name := by
      intro m hm hsame
      obtain ⟨g, hg, r, hgr, rfl⟩ := Partition.mem_annotated_split.1 hm
      cases List.inj_on_of_nodup_map h hg hf (Ident.name_eq_of_same hsame)
      exact absurd (hr.symm.trans hgr) nofun
    rw [List.find?_eq_none.2 none]
    rfl
  · have mem : f.classified c.markers r ∈ (Partition.split c.markers d.fields).annotated :=
      Partition.mem_annotated_split.2 ⟨f, hf, r, hr, rfl⟩
    rw [find?_eq_some mem (Ident.same_self _)]
    · rfl
    · intro m hm hsame
      obtain ⟨g, hg, s, hgs, rfl⟩ := Partition.mem_annotated_split.1 hm
      cases List.inj_on_of_nodup_map h hg hf (Ident.name_eq_of_same hsame)
      cases hr.symm.trans hgs
      rfl

end Declaration

/-! ### A struct with fields of all kinds -/

/-- A struct in which headers, plain fields and body fields alternate. -/
def mixedStruct : Declaration where
  name := .plain "Fetch"
  visibility := []
  kind := .struct
  attributes := []
  derives := []
  fields := [
    ⟨.plain "id", Phrase.word "u64", [], [⟨.plain "header", .string "X-Id"⟩], []⟩,
    ⟨.plain "note", Phrase.word "bool", [], [], []⟩,
    ⟨⟨true, "type", .callSite⟩, Phrase.word "u8", [], [⟨.plain "body", .none⟩], []⟩,
    ⟨.plain "token", Phrase.word "String", [], [⟨.plain "header", .none⟩], []⟩]

/-- The struct obeys all rules under the default configuration. -/
theorem acceptable_mixedStruct : mixedStruct.Acceptable (Entry.isRename ·) {} := by
  constructor
  case kind => rfl
  case names => decide
  case markers => decide
  case storage =>
    intro f hf r
    revert f
    cases r <;> decide
  case constructor =>
    intro r
    cases r <;> decide
  case methods =>
    rintro f hf -
    refine ⟨?_, fun r => ?_⟩
    · revert f
      decide
    · revert f
      cases r <;> decide
  case attributes =>
    rintro f hf -
    have none : f.attributes = [] := by
      revert f
      simp [mixedStruct]
    simp [none]
  case keys =>
    intro r
    cases r <;> decide

theorem expand_mixedStruct : mixedStruct.expand {} = .ok (mixedStruct.expansion {}) :=
  Declaration.expand_eq_ok.2 ⟨acceptable_mixedStruct, rfl⟩

end RequestGroups
