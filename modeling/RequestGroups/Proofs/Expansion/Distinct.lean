import RequestGroups.Expansion.Emission
import RequestGroups.Proofs.Instance.Routing

/-! # Generated names do not clash

An expansion puts names next to each other that come from three places: the fields of the
declaration, the configuration and the conversions. The rules of `Declaration.Acceptable` keep them
apart, where names are compared without the mark of raw identifiers.

* `Apart` says that names differ even without this mark;
* `names_methods`, `names_parameters`: which names the methods and the parameters have;
* `Expansion.NoClash` collects the scopes of the generated code with their names, and
  `noClash_expand` says that in each of them the names are apart. -/

namespace RequestGroups

open Source Grammar

variable {d : Declaration} {c : Config}

/-- Names that differ even without the mark of raw identifiers. -/
def Apart (names : List Ident) : Prop := (names.map (·.name)).Nodup

instance (names : List Ident) : Decidable (Apart names) :=
  inferInstanceAs (Decidable (List.Nodup _))

theorem apart_names {l : List Field} :
    Apart (l.map (·.name)) ↔ (l.map (·.name.name)).Nodup := by
  rw [Apart, List.map_map]
  exact Iff.rfl

/-- Two lists of names are apart if each of them is and they share no name. -/
theorem apart_append {l m : List Ident} :
    Apart (l ++ m) ↔ Apart l ∧ Apart m ∧ ∀ i ∈ l, ∀ j ∈ m, i.name ≠ j.name := by
  simp only [Apart, List.map_append, List.nodup_append, List.mem_map, forall_exists_index, and_imp,
    forall_apply_eq_imp_iff₂]

namespace Declaration

/-- The fields of a declaration that belong to a group. -/
abbrev annotatedFields (d : Declaration) (c : Config) : List Field :=
  d.fields.filter fun f => (f.role? c.markers).isSome

theorem mem_annotatedFields {f : Field} :
    f ∈ d.annotatedFields c ↔ f ∈ d.fields ∧ f.IsAnnotated c.markers := by
  simp [annotatedFields, Field.IsAnnotated, Option.isSome_iff_exists]

/-! ### Methods -/

theorem names_accessors (h : (d.fields.map (·.name.name)).Nodup) :
    (d.expansion c).accessors.map (·.name) = (d.annotatedFields c).map (·.name) := by
  rw [accessors_expansion h, List.map_filterMap]
  refine filterMap_eq_map_filter fun f _ => ?_
  cases f.role? c.markers <;> rfl

/-- The methods are the accessors of the annotated fields, the conversions and the constructor. -/
theorem names_methods (h : (d.fields.map (·.name.name)).Nodup) :
    ((d.expansion c).methods c).map (·.name) = (d.annotatedFields c).map (·.name) ++
      (Role.all.map (fun r => .plain (conversionName r)) ++ [c.constructor]) := by
  rw [← names_accessors h, Expansion.methods, List.map_append, List.map_map]
  rfl

/-- Each method has a name of its own. -/
theorem apart_methods {renames : Entry → Prop} (h : d.Acceptable renames c) :
    Apart (((d.expansion c).methods c).map (·.name)) := by
  rw [names_methods h.names, apart_append, apart_append]
  refine ⟨apart_names.2 (h.names.sublist (List.filter_sublist.map _)),
    ⟨by decide, List.nodup_singleton _, ?_⟩, ?_⟩
  · intro i hi j hj
    obtain ⟨r, -, rfl⟩ := List.mem_map.1 hi
    rw [List.mem_singleton.1 hj]
    exact (h.constructor r).symm
  · intro i hi j hj
    obtain ⟨f, hf, rfl⟩ := List.mem_map.1 hi
    obtain ⟨hmem, hann⟩ := mem_annotatedFields.1 hf
    obtain ⟨hnew, hconversion⟩ := h.methods f hmem hann
    rcases List.mem_append.1 hj with hj | hj
    · obtain ⟨r, -, rfl⟩ := List.mem_map.1 hj
      exact hconversion r
    · rw [List.mem_singleton.1 hj]
      exact hnew

/-! ### Parameters -/

theorem names_parameters : (d.expansion c).constructor.parameters.map (·.name) =
    (d.members c .header).map (·.name) ++ (d.members c .body).map (·.name) := by
  rw [parameters_expansion, List.map_map]
  simp [Role.all, Field.parameter, Function.comp_def]

/-- A field belongs to one group only, so no two parameters stand for one field. -/
theorem apart_parameters (h : (d.fields.map (·.name.name)).Nodup) :
    Apart ((d.expansion c).constructor.parameters.map (·.name)) := by
  rw [names_parameters, apart_append]
  refine ⟨nodup_members h .header, nodup_members h .body, ?_⟩
  intro i hi j hj he
  obtain ⟨f, hf, rfl⟩ := List.mem_map.1 hi
  obtain ⟨g, hg, rfl⟩ := List.mem_map.1 hj
  obtain ⟨hf, hheader⟩ := mem_group.1 hf
  obtain ⟨hg, hbody⟩ := mem_group.1 hg
  cases List.inj_on_of_nodup_map h hf hg he
  exact absurd (hheader.symm.trans hbody) nofun

end Declaration

/-! ### All scopes -/

/-- **The scopes of the generated code**: which names stand in each of them, and that no name stands
there twice. -/
structure Expansion.NoClash (e : Expansion) (d : Declaration) (c : Config) : Prop where
  /-- The methods read the annotated fields, convert the groups and construct an instance. -/
  methods : (e.methods c).map (·.name) = (d.annotatedFields c).map (·.name) ++
      (Role.all.map (fun r => .plain (conversionName r)) ++ [c.constructor]) ∧
    Apart ((e.methods c).map (·.name))
  parameters : e.constructor.parameters.map (·.name) =
      (d.members c .header).map (·.name) ++ (d.members c .body).map (·.name) ∧
    Apart (e.constructor.parameters.map (·.name))
  records : ∀ r, ((e.record r).code c d).fieldNames = (d.members c r).map (·.name) ∧
    Apart ((e.record r).code c d).fieldNames
  /-- Only a configuration can give one name to the fields of both groups. -/
  struct : e.structCode.fieldNames = Role.all.map c.storage ++ (d.plainFields c).map (·.name) ∧
    (c.headersStorage.name ≠ c.bodyStorage.name → Apart e.structCode.fieldNames)

namespace Declaration

/-- **No generated member has the name of another one** in its scope. -/
theorem noClash_expand {e : Expansion} (h : d.expand c = .ok e) : e.NoClash d c := by
  obtain ⟨ha, rfl⟩ := expand_eq_expansion h
  constructor
  case methods => exact ⟨names_methods ha.names, apart_methods ha⟩
  case parameters => exact ⟨names_parameters, apart_parameters ha.names⟩
  case records =>
    intro r
    rw [fieldNames_code]
    exact ⟨rfl, nodup_members ha.names r⟩
  case struct =>
    rw [fieldNames_structCode]
    exact ⟨rfl, nodup_fieldNames ha⟩

theorem noClash_mixedStruct :
    ∃ e, mixedStruct.expand {} = .ok e ∧ e.NoClash mixedStruct {} :=
  ⟨_, expand_mixedStruct, noClash_expand expand_mixedStruct⟩

end Declaration

end RequestGroups
