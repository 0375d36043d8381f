import RequestGroups.Proofs.Expansion.Lookups
import RequestGroups.Proofs.Expansion.Distinct
import RequestGroups.Proofs.Sample.Values
import RequestGroups.Sample.Basic

/-! # What sample requests hold

An instance of a sample holds a value for each field of its declaration that belongs to the type of
the field (`Expanded.IsInstance`), and the name of the field finds this value, be it by an accessor
or in a plain field.

* `get?_instanceOf`: what is found under any name;
* `get?_construct?`, `toJson_construct?`: the accessors give what the constructor was given, and
  show it as it was given;
* `get?_set?`: setting a plain field changes what is found under its name and nothing else. -/

namespace RequestGroups.Sample

open Source Grammar

/-! ### Fields -/

/-- The fields of the sample differ as they are written, its groups are stored in two fields, and
the default of every type belongs to the type. -/
structure Regular (s : Sample) : Prop where
  marks : ∀ m ∈ s.fields, m.name.LeavesMarkOut
  storage : s.config.headersStorage.name ≠ s.config.bodyStorage.name
  initial : ∀ m ∈ s.fields, m.type.Admits m.type.initial

instance (s : Sample) : Decidable s.Regular :=
  decidable_of_iff ((∀ m ∈ s.fields, m.name.LeavesMarkOut) ∧
    s.config.headersStorage.name ≠ s.config.bodyStorage.name ∧
    ∀ m ∈ s.fields, m.type.Admits m.type.initial)
    ⟨fun h => ⟨h.1, h.2.1, h.2.2⟩, fun h => ⟨h.marks, h.storage, h.initial⟩⟩

namespace Expanded

variable {x : Expanded} {i i' : Instance Value} {value : Field → Value} {initial : Ident → Value}
  {n m : String}

theorem accepted (x : Expanded) :
    x.sample.declaration.Acceptable (Entry.isRename ·) x.sample.config :=
  (Declaration.expand_eq_expansion x.expands).1

theorem expansion_eq (x : Expanded) :
    x.expansion = x.sample.declaration.expansion x.sample.config :=
  (Declaration.expand_eq_expansion x.expands).2

/-- The fields of a group. -/
abbrev members (x : Expanded) : Role → List Field := x.sample.declaration.members x.sample.config

/-- The plain fields. -/
abbrev plainFields (x : Expanded) : List Field := x.sample.declaration.plainFields x.sample.config

/-- The annotated fields in the order of the parameters. -/
abbrev annotated (x : Expanded) : List Field := Role.all.flatMap x.members

theorem parameters_eq (x : Expanded) :
    x.expansion.constructor.parameters = x.annotated.map Field.parameter := by
  rw [expansion_eq, Declaration.parameters_expansion]

theorem nodup_annotated (x : Expanded) : x.annotated.Nodup := by
  have apart := Declaration.apart_parameters (c := x.sample.config) x.accepted.names
  rw [Declaration.parameters_expansion, Apart, List.map_map, List.map_map] at apart
  exact List.Nodup.of_map _ apart

section Names

variable (regular : x.sample.Regular)
include regular

theorem marks : ∀ f ∈ x.sample.declaration.fields, f.name.LeavesMarkOut := by
  intro f hf
  obtain ⟨m, hm, rfl⟩ := List.mem_map.1 hf
  exact regular.marks m hm

theorem type?_of_mem {m : Member} (hm : m ∈ x.sample.fields) : x.type? m.name = some m.type := by
  have names : (x.sample.fields.map (·.name.name)).Nodup := by
    have names := x.accepted.names
    rwa [declaration, List.map_map] at names
  have found : x.sample.field? m.name = some m := by
    refine find?_eq_some hm (beq_self_eq_true _) fun m' hm' alike => ?_
    exact List.inj_on_of_nodup_map names hm' hm
      (Ident.name_eq_of_spelling_eq (regular.marks m' hm') (regular.marks m hm) (eq_of_beq alike))
  rw [type?, found, Option.map_some]

/-- A field has a type, to which the default of the type belongs. -/
theorem exists_type {f : Field} (hf : f ∈ x.sample.declaration.fields) :
    ∃ t, x.type? f.name = some t ∧ t.Admits t.initial := by
  obtain ⟨m, hm, rfl⟩ := List.mem_map.1 hf
  exact ⟨m.type, type?_of_mem regular hm, regular.initial m hm⟩

theorem field?_spelling {f : Field} (hf : f ∈ x.sample.declaration.fields) :
    x.sample.declaration.field? f.name.spelling = some f :=
  (Declaration.field?_eq_some x.accepted.names (marks regular)).2 ⟨hf, beq_self_eq_true _⟩

end Names

/-! ### Instances -/

/-- Whether a value belongs to the type of a field. -/
def Admits (x : Expanded) (name : Ident) (v : Value) : Prop :=
  ∃ t, x.type? name = some t ∧ t.Admits v

/-- Values of the annotated fields, and defaults of the plain fields, of the types of the fields. -/
structure Fits (x : Expanded) (value : Field → Value) (initial : Ident → Value) : Prop where
  groups : ∀ f ∈ x.annotated, x.Admits f.name (value f)
  plain : ∀ f ∈ x.plainFields, x.Admits f.name (initial f.name)

/-- The instance with the given values of the annotated fields and the given defaults. -/
abbrev instanceOf (x : Expanded) : (Field → Value) → (Ident → Value) → Instance Value :=
  x.sample.declaration.instanceOf x.sample.config

/-- Whether an instance holds a value of its type for each field of the declaration. -/
def IsInstance (x : Expanded) (i : Instance Value) : Prop :=
  ∃ value initial, x.Fits value initial ∧ i = x.instanceOf value initial

/-- The default of each field. -/
def initialOf (x : Expanded) (name : Ident) : Value := (x.initial? name).getD default

theorem admits_of_decodeField? {name : Ident} {j : JsonValue} {v : Value}
    (h : x.decodeField? name j = some v) : x.Admits name v := by
  obtain ⟨t, type, read⟩ := Option.bind_eq_some_iff.1 h
  exact ⟨t, type, ValueType.admits_of_decode (Outcome.toOption_eq_some.1 read)⟩

section Laws

variable (regular : x.sample.Regular)
include regular

theorem initial?_eq {f : Field} (hf : f ∈ x.sample.declaration.fields) :
    x.initial? f.name = some (x.initialOf f.name) := by
  obtain ⟨t, type, -⟩ := exists_type regular hf
  rw [initialOf, initial?, type, Option.map_some, Option.getD_some]

theorem admits_initialOf {f : Field} (hf : f ∈ x.sample.declaration.fields) :
    x.Admits f.name (x.initialOf f.name) := by
  obtain ⟨t, type, admits⟩ := exists_type regular hf
  exact ⟨t, type, by rwa [initialOf, initial?, type]⟩

/-- **What is found under a name**: the value of the field, or its default if it is a plain one. -/
theorem get?_instanceOf (value : Field → Value) (initial : Ident → Value) (n : String) :
    x.get? (x.instanceOf value initial) n =
      (x.sample.declaration.field? n).map fun f =>
        if (f.role? x.sample.config.markers).isSome then value f else initial f.name := by
  have names := x.accepted.names
  have marks := marks regular
  have plain : x.plainField? n = ((x.sample.declaration.field? n).filter
      (·.role? x.sample.config.markers = none)).toList.head? := by
    rw [plainField?, ← List.head?_filter, expansion_eq,
      Declaration.filter_plainFields names marks]
  rw [get?, plain, expansion_eq, Declaration.accessor?_expansion names marks]
  -- an annotated field is read by its accessor, and there is none of the name of a plain field
  cases hf : x.sample.declaration.field? n with
  | none => rfl
  | some f =>
    obtain ⟨hmem, -⟩ := (Declaration.field?_eq_some names marks).1 hf
    cases hr : f.role? x.sample.config.markers with
    | none =>
      have holds := Declaration.plain?_instanceOf x.accepted regular.storage value initial
        (mem_plainOf.2 ⟨hmem, hr⟩)
      rw [Option.filter_some, if_pos (decide_eq_true hr)]
      simp [hr, holds]
    | some r =>
      have gives := Declaration.run_projection x.accepted regular.storage value initial
        (mem_group.2 ⟨hmem, hr⟩)
      simp only [Option.bind_some, hr, Option.map_some, Option.isSome_some, if_true]
      exact gives

/-! ### Making instances -/

omit regular in
theorem construct?_eq (x : Expanded) (arguments : List JsonValue) : x.construct? arguments =
    if arguments.length = x.annotated.length then
      ((x.annotated.zip arguments).mapM fun p => x.decodeField? p.1.name p.2).bind
        (x.expansion.construct x.initial?)
    else none := by
  unfold construct?
  dsimp only
  rw [parameters_eq, List.length_map, List.zip_map_left, List.mapM_map]
  by_cases len : arguments.length = x.annotated.length
  · rw [if_neg (not_not.2 len), if_pos len]
    rfl
  · rw [if_pos len, if_neg len]
    rfl

theorem construct_annotated (value : Field → Value) :
    x.expansion.construct x.initial? (x.annotated.map value) =
      some (x.instanceOf value x.initialOf) := by
  rw [expansion_eq]
  exact Declaration.construct_of_defaults x.accepted.names value fun f hf =>
    initial?_eq regular (mem_plainOf.1 hf).1

/-- **What the constructor is given** are values that are read for the annotated fields, and the
plain fields have their defaults. -/
theorem construct?_eq_some {arguments : List JsonValue} : x.construct? arguments = some i ↔
    ∃ value : Field → Value,
      List.Forall₂ (fun f j => x.decodeField? f.name j = some (value f)) x.annotated arguments ∧
      i = x.instanceOf value x.initialOf := by
  rw [construct?_eq]
  by_cases len : arguments.length = x.annotated.length
  · rw [if_pos len, Option.bind_eq_some_iff]
    constructor
    · rintro ⟨values, read, built⟩
      have count : values.length = x.annotated.length := by
        rw [← (mapM_eq_some.1 read).length_eq, List.length_zip, len, Nat.min_self]
      obtain ⟨value, rfl⟩ := exists_map_eq x.nodup_annotated count
      rw [construct_annotated regular] at built
      exact ⟨value, (mapM_zip_eq_some len).1 read, (Option.some.inj built).symm⟩
    · rintro ⟨value, read, rfl⟩
      exact ⟨_, (mapM_zip_eq_some len).2 read, construct_annotated regular value⟩
  · rw [if_neg len]
    constructor
    · exact nofun
    · rintro ⟨value, read, -⟩
      exact absurd read.length_eq.symm len

/-- An instance that is made by default has the default of each field. -/
theorem default?_eq_some : x.default? = some i ↔ x.derives "Default" ∧
    i = x.instanceOf (fun f => x.initialOf f.name) x.initialOf := by
  have values : x.expansion.constructor.parameters.mapM (fun p => x.initial? p.name) =
      some (x.annotated.map fun f => x.initialOf f.name) := by
    rw [parameters_eq, List.mapM_map]
    exact mapM_eq_some_map fun f hf => initial?_eq regular (Declaration.flatMap_members_subset hf)
  unfold default?
  rw [values]
  by_cases derives : x.derives "Default"
  · simp [derives, construct_annotated regular, eq_comm]
  · simp [derives]

/-- **The accessors give what the constructor was given**, as it is read, and the plain fields hold
their defaults. -/
theorem get?_construct? {arguments : List JsonValue} (h : x.construct? arguments = some i) :
    List.Forall₂ (fun f j => ∃ v, x.decodeField? f.name j = some v ∧
      x.get? i f.name.spelling = some v) x.annotated arguments ∧
    ∀ f ∈ x.plainFields, x.get? i f.name.spelling = x.initial? f.name := by
  obtain ⟨value, read, rfl⟩ := (construct?_eq_some regular).1 h
  constructor
  · have found : ∀ f ∈ x.annotated,
        x.get? (x.instanceOf value x.initialOf) f.name.spelling = some (value f) := by
      intro f hf
      obtain ⟨r, -, hf⟩ := List.mem_flatMap.1 hf
      obtain ⟨hf, hr⟩ := mem_group.1 hf
      rw [get?_instanceOf regular, field?_spelling regular hf, Option.map_some, hr]
      rfl
    have both := (List.forall₂_and_left _ _).2 ⟨found, read⟩
    exact both.imp fun f j h => ⟨value f, h.2, h.1⟩
  · intro f hf
    obtain ⟨hf, hr⟩ := mem_plainOf.1 hf
    rw [get?_instanceOf regular, field?_spelling regular hf, Option.map_some, hr,
      initial?_eq regular hf]
    rfl

/-- **What the constructor was given is shown again** by the accessors, unless there are maps. -/
theorem toJson_construct? {arguments : List JsonValue} (h : x.construct? arguments = some i)
    (maps : ∀ m ∈ x.sample.fields, m.type ≠ .chunks) :
    List.Forall₂ (fun f j => (x.get? i f.name.spelling).map Value.toJson = some j)
      x.annotated arguments := by
  have types : ∀ f ∈ x.annotated, ∃ m ∈ x.sample.fields, m.field = f := fun f hf =>
    List.mem_map.1 (Declaration.flatMap_members_subset hf)
  refine ((List.forall₂_and_left _ _).2 ⟨types, (get?_construct? regular h).1⟩).imp ?_
  rintro _ j ⟨⟨m, hm, rfl⟩, v, hv, found⟩
  have type : x.type? m.field.name = some m.type := type?_of_mem regular hm
  rw [decodeField?, type] at hv
  have shown := ((ValueType.decode_eq_ok (maps m hm)).1 (Outcome.toOption_eq_some.1 hv)).2
  rw [found, shown, Option.map_some]

end Laws

/-! ### Setting fields -/

theorem of_plainField? {f : Field} (h : x.plainField? n = some f) :
    f ∈ x.plainFields ∧ f.name.spells n := by
  have mem := List.mem_of_find?_eq_some h
  rw [expansion_eq] at mem
  have spelled := List.find?_some h
  exact ⟨mem, spelled⟩

/-- A plain field is set to the value that is read for it. -/
theorem set?_eq_some {j : JsonValue} : x.set? i n j = some i' ↔
    ∃ f v, x.plainField? n = some f ∧ x.decodeField? f.name j = some v ∧ i.set f.name v = i' := by
  simp [set?, Option.bind_eq_some_iff]

theorem set_instanceOf {f : Field} (hf : f ∈ x.sample.declaration.fields)
    (value : Field → Value) (initial : Ident → Value) (v : Value) :
    (x.instanceOf value initial).set f.name v =
      x.instanceOf value fun n => if n.name == f.name.name then v else initial n := by
  unfold Instance.set instanceOf Declaration.instanceOf
  rw [List.map_append, List.map_map, List.map_map]
  congr 1
  · refine List.map_congr_left fun r _ => ?_
    -- no field has the name of a storage field
    have apart : (x.sample.config.storage r).name ≠ f.name.name :=
      (x.accepted.storage f hf r).symm
    simp [apart]
  · refine List.map_congr_left fun g _ => ?_
    by_cases same : g.name.name = f.name.name <;> simp [same]

/-- Setting a plain field keeps the values of the other fields. -/
theorem isInstance_set? {j : JsonValue} (hi : x.IsInstance i) (h : x.set? i n j = some i') :
    x.IsInstance i' := by
  obtain ⟨value, initial, fits, rfl⟩ := hi
  obtain ⟨f, v, hf, hv, rfl⟩ := set?_eq_some.1 h
  have hmem := (mem_plainOf.1 (of_plainField? hf).1).1
  refine ⟨value, _, ⟨fits.groups, fun g hg => ?_⟩, set_instanceOf hmem value initial v⟩
  by_cases same : g.name.name = f.name.name
  · cases List.inj_on_of_nodup_map x.accepted.names (mem_plainOf.1 hg).1 hmem same
    simpa using admits_of_decodeField? hv
  · simpa [same] using fits.plain g hg

/-- **Setting a plain field** changes what is found under its name, and nothing else. -/
theorem get?_set? (regular : x.sample.Regular) {j : JsonValue} (hi : x.IsInstance i) (h : x.set? i n j = some i') :
    (∃ f v, x.plainField? n = some f ∧ x.decodeField? f.name j = some v ∧
      x.get? i' n = some v) ∧ ∀ m, m ≠ n → x.get? i' m = x.get? i m := by
  obtain ⟨value, initial, -, rfl⟩ := hi
  obtain ⟨f, v, hf, hv, rfl⟩ := set?_eq_some.1 h
  obtain ⟨plain, spelled⟩ := of_plainField? hf
  obtain ⟨hmem, hr⟩ := mem_plainOf.1 plain
  have found := (Declaration.field?_eq_some x.accepted.names (marks regular)).2 ⟨hmem, spelled⟩
  rw [set_instanceOf hmem]
  refine ⟨⟨f, v, hf, hv, ?_⟩, fun m other => ?_⟩
  · rw [get?_instanceOf regular, found, Option.map_some, hr]
    simp
  · rw [get?_instanceOf regular, get?_instanceOf regular]
    refine Option.map_congr fun g hg => ?_
    obtain ⟨hgmem, hgm⟩ := (Declaration.field?_eq_some x.accepted.names (marks regular)).1 hg
    have apart : g.name.name ≠ f.name.name := by
      intro same
      cases List.inj_on_of_nodup_map x.accepted.names hgmem hmem same
      exact other ((eq_of_beq hgm).symm.trans (eq_of_beq spelled))
    simp [apart]

end Expanded

end RequestGroups.Sample
