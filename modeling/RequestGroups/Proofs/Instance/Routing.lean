import RequestGroups.Proofs.Expansion.Output
import RequestGroups.Proofs.Expansion.Shape
import RequestGroups.Proofs.Instance.BodyReading

/-! # Where the values of an instance go

The constructor takes a value for each annotated field, headers first, and the instance that it
builds is `Declaration.instanceOf`: each group holds the values of its role under the names of their
fields, and each plain field its default (`construct_of_defaults`). Reading finds every value again.

* `lookup?_map`: a field of a declaration is found by its name among the others;
* `members?_instanceOf`, `plain?_instanceOf`: what the fields of the instance hold, if the groups
  are stored under two names;
* `Expansion.Routes` collects what the generated code does with the values, as its tokens say, and
  `routes_expand` says that every expansion does it. -/

namespace RequestGroups

open Source Grammar
open TokenTree (sign)

variable {α : Type u} {d : Declaration} {c : Config}

/-! ### Literals -/

/-- The names of the fields of a struct. -/
def Grammar.StructItem.fieldNames (s : StructItem) : List Ident := s.items.filterMap (·.name)

/-- A literal with the given names of fields sets every field of a struct once, and nothing else. -/
def Initialises (names : List Ident) (s : StructItem) : Prop :=
  names = s.fieldNames ∧ (names.map (·.name)).Nodup

namespace Declaration

theorem items_structCode : (d.expansion c).structCode.items =
    Role.all.map (d.expansion c).storageField ++ (d.plainFields c).map Field.item := rfl

theorem fieldNames_structCode : (d.expansion c).structCode.fieldNames =
    Role.all.map c.storage ++ (d.plainFields c).map (·.name) := by
  rw [StructItem.fieldNames, items_structCode]
  simp [Expansion.storageField, Role.all, expansion, expansionOf, Storage.fieldOf, Config.storage,
    Field.item, Function.comp_def]

theorem names_constructorCode : (d.expansion c).constructorCode.fields.map (·.1) =
    Role.all.map c.storage ++ (d.plainFields c).map (·.name) := by
  rw [fields_constructorCode, List.map_append, List.map_map, List.map_map]
  rfl

theorem fieldNames_code (r : Role) : (((d.expansion c).record r).code c d).fieldNames =
    (d.members c r).map (·.name) := by
  rw [record_expansion]
  simp [StructItem.fieldNames, StructItem.items, GroupRecord.code, GroupRecord.fieldCode,
    Field.grouped, Function.comp_def]

theorem nodup_members (h : (d.fields.map (·.name.name)).Nodup) (r : Role) :
    (((d.members c r).map (·.name)).map (·.name)).Nodup := by
  rw [List.map_map]
  exact h.sublist (List.filter_sublist.map _)

/-- The storage fields and the plain fields have distinct names. -/
theorem nodup_fieldNames {renames : Entry → Prop} (h : d.Acceptable renames c)
    (hs : c.headersStorage.name ≠ c.bodyStorage.name) :
    ((Role.all.map c.storage ++ (d.plainFields c).map (·.name)).map (·.name)).Nodup := by
  have plain : ((d.plainFields c).map (·.name.name)).Nodup :=
    h.names.sublist (List.filter_sublist.map _)
  have apart : ∀ f ∈ d.plainFields c, ∀ r, f.name.name ≠ (c.storage r).name :=
    fun f hf => h.storage f (mem_plainOf.1 hf).1
  simp only [Role.all, Config.storage, List.map_cons, List.map_nil, List.cons_append,
    List.nil_append, List.map_map, List.nodup_cons, List.mem_cons, List.mem_map, not_or]
  refine ⟨⟨hs, ?_⟩, ?_, plain⟩
  · rintro ⟨f, hf, he⟩
    exact apart f hf .header he
  · rintro ⟨f, hf, he⟩
    exact apart f hf .body he

/-! ### Construction -/

/-- The values that the constructor takes: those of the headers, then those of the body. -/
def arguments (d : Declaration) (c : Config) (value : Field → α) : List α :=
  (Role.all.flatMap (d.members c)).map value

/-- What a group holds: the values of its fields under their names. -/
def groupOf (d : Declaration) (c : Config) (value : Field → α) (r : Role) : List (Ident × α) :=
  (d.members c r).map fun f => (f.name, value f)

/-- The instance with the given values in its groups and the given defaults beside them. -/
def instanceOf (d : Declaration) (c : Config) (value : Field → α) (initial : Ident → α) :
    Instance α :=
  Role.all.map (fun r => (c.storage r, .group (d.groupOf c value r))) ++
    (d.plainFields c).map fun f => (f.name, .plain (initial f.name))

end Declaration

/-- **A field is found by its name** among fields with distinct names. -/
theorem lookup?_map {β : Type v} {fs l : List Field} (h : (fs.map (·.name.name)).Nodup)
    (hl : l ⊆ fs) {f : Field} (hf : f ∈ l) (g : Field → β) :
    lookup? f.name (l.map fun f => (f.name, g f)) = some (g f) := by
  unfold lookup?
  rw [find?_eq_some (a := (f.name, g f)) (List.mem_map.2 ⟨f, hf, rfl⟩) (by simp)]
  · rfl
  · intro b hb he
    obtain ⟨f', hf', rfl⟩ := List.mem_map.1 hb
    cases List.inj_on_of_nodup_map h (hl hf') (hl hf) (by simpa using he)
    rfl

namespace Declaration

/-- Each parameter is bound to the value of its field. -/
theorem parameters_zip (value : Field → α) :
    (d.expansion c).constructor.parameters.zip (d.arguments c value) =
      (Role.all.flatMap (d.members c)).map fun f => (f.parameter, value f) := by
  rw [parameters_expansion, arguments, List.zip_map']

theorem arguments_zip (value : Field → α) :
    ((d.expansion c).constructor.parameters.map (·.name)).zip (d.arguments c value) =
      (Role.all.flatMap (d.members c)).map fun f => (f.name, value f) := by
  rw [List.zip_map_left, parameters_zip, List.map_map]
  rfl

theorem flatMap_members_subset : Role.all.flatMap (d.members c) ⊆ d.fields := by
  intro f hf
  obtain ⟨r, -, hf⟩ := List.mem_flatMap.1 hf
  exact (mem_group.1 hf).1

/-- The literal of a group takes the values of its fields. -/
theorem run_groupLiteral (h : (d.fields.map (·.name.name)).Nodup) (value : Field → α) (r : Role) :
    ((d.expansion c).groupLiteral r).run
      ((Role.all.flatMap (d.members c)).map fun f => (f.name, value f)) =
      some (d.groupOf c value r) := by
  unfold GroupLiteral.run
  rw [names_groupLiteral, List.mapM_map]
  refine mapM_eq_some_map fun f hf => ?_
  have hf : f ∈ Role.all.flatMap (d.members c) := List.mem_flatMap.2 ⟨r, Role.mem_all r, hf⟩
  simp only [Function.comp_apply]
  rw [lookup?_map h flatMap_members_subset hf]
  rfl

/-- **What the constructor builds** where the types of the plain fields have the given defaults. -/
theorem construct_of_defaults (h : (d.fields.map (·.name.name)).Nodup) (value : Field → α)
    {initial? : Ident → Option α} {initial : Ident → α}
    (defaults : ∀ f ∈ d.plainFields c, initial? f.name = some (initial f.name)) :
    (d.expansion c).construct initial? (d.arguments c value) =
      some (d.instanceOf c value initial) := by
  unfold Expansion.construct
  rw [if_pos (by simp [arguments, arity_expansion]), arguments_zip]
  unfold ConstructorCode.run
  rw [fields_constructorCode, List.mapM_append, List.mapM_map, List.mapM_map]
  simp only [Function.comp_def, Initializer.run, run_groupLiteral h, Option.map_some]
  have groups : Role.all.mapM (fun r => some (c.storage r, Slot.group (d.groupOf c value r))) =
      some (Role.all.map fun r => (c.storage r, .group (d.groupOf c value r))) :=
    mapM_eq_some_map fun _ _ => rfl
  have plain : (d.plainFields c).mapM
      (fun f => ((initial? f.name).map Slot.plain).map (f.name, ·)) =
      some ((d.plainFields c).map fun f => (f.name, .plain (initial f.name))) :=
    mapM_eq_some_map fun f hf => by rw [defaults f hf]; rfl
  rw [groups, plain]
  rfl

theorem construct_expansion (h : (d.fields.map (·.name.name)).Nodup) (value : Field → α)
    (initial : Ident → α) :
    (d.expansion c).construct (fun n => some (initial n)) (d.arguments c value) =
      some (d.instanceOf c value initial) :=
  construct_of_defaults h value fun _ _ => rfl

/-- The body of the constructor builds it. -/
theorem builds?_constructor (h : (d.fields.map (·.name.name)).Nodup) (value : Field → α)
    (initial : Ident → α) :
    (d.expansion c).constructorTokens.builds?
      (((d.expansion c).constructor.parameters.map (·.name)).zip (d.arguments c value))
        (fun n => some (initial n)) = some (d.instanceOf c value initial) := by
  have builds := construct_expansion (c := c) h value initial
  rw [Expansion.construct, if_pos (by simp [arguments, arity_expansion])] at builds
  rw [MethodTokens.builds?, read?_constructor, Option.bind_some, builds]

/-! ### Reading -/

/-- A plain field is no annotated field under the same name. -/
theorem name_ne_plain (h : (d.fields.map (·.name.name)).Nodup) {f g : Field} {r : Role}
    (hf : f ∈ d.plainFields c) (hg : g ∈ d.fields) (hr : g.role? c.markers = some r) :
    g.name.name ≠ f.name.name := by
  intro he
  obtain ⟨hmem, hplain⟩ := mem_plainOf.1 hf
  cases List.inj_on_of_nodup_map h hg hmem he
  exact absurd (hplain.symm.trans hr) nofun

/-- A member of a group is found by its name. -/
theorem lookup?_groupOf (h : (d.fields.map (·.name.name)).Nodup) (value : Field → α) {r : Role}
    {f : Field} (hf : f ∈ d.members c r) :
    lookup? f.name (d.groupOf c value r) = some (value f) :=
  lookup?_map h (fun _ hg => (mem_group.1 hg).1) hf value

section Reading

variable {renames : Entry → Prop} (h : d.Acceptable renames c)
  (hs : c.headersStorage.name ≠ c.bodyStorage.name)
include h hs

/-- **A field of the instance is found** by its name. -/
theorem lookup?_instanceOf {value : Field → α} {initial : Ident → α} {b : Ident × Slot α}
    (hb : b ∈ d.instanceOf c value initial) :
    lookup? b.1 (d.instanceOf c value initial) = some b.2 := by
  have names : (d.instanceOf c value initial).map (·.1) =
      Role.all.map c.storage ++ (d.plainFields c).map (·.name) := by
    simp [instanceOf, Function.comp_def]
  have distinct : ((d.instanceOf c value initial).map (·.1.name)).Nodup := by
    have h := nodup_fieldNames h hs
    rwa [← names, List.map_map] at h
  unfold lookup?
  rw [find?_eq_some hb (by simp)]
  · rfl
  · intro b' hb' he
    exact List.inj_on_of_nodup_map distinct hb' hb (by simpa using he)

/-- **A group is found** under the name of its storage field. -/
theorem members?_instanceOf (value : Field → α) (initial : Ident → α) (r : Role) :
    (d.instanceOf c value initial).members? (c.storage r) = some (d.groupOf c value r) := by
  have mem : (c.storage r, .group (d.groupOf c value r)) ∈ d.instanceOf c value initial :=
    List.mem_append_left _ (List.mem_map.2 ⟨r, Role.mem_all r, rfl⟩)
  rw [Instance.members?, lookup?_instanceOf h hs mem]

/-- **A plain field holds its default.** -/
theorem plain?_instanceOf (value : Field → α) (initial : Ident → α) {f : Field}
    (hf : f ∈ d.plainFields c) :
    (d.instanceOf c value initial).plain? f.name = some (initial f.name) := by
  have mem : (f.name, .plain (initial f.name)) ∈ d.instanceOf c value initial :=
    List.mem_append_right _ (List.mem_map.2 ⟨f, hf, rfl⟩)
  rw [Instance.plain?, lookup?_instanceOf h hs mem]

/-- **An accessor reads the value of its field.** -/
theorem run_projection (value : Field → α) (initial : Ident → α) {f : Field} {r : Role}
    (hf : f ∈ d.members c r) :
    ((d.expansion c).projection (Accessor.ofField (f.classified c.markers r))).run
      (d.instanceOf c value initial) = some (value f) := by
  show ((d.instanceOf c value initial).members? ((d.expansion c).storage.fieldOf r)).bind
    (lookup? f.name) = some (value f)
  rw [fieldOf_expansion, members?_instanceOf h hs, Option.bind_some,
    lookup?_groupOf h.names value hf]

/-- The accessors of the annotated fields with the values that they read. -/
theorem accessors_instanceOf (value : Field → α) (initial : Ident → α) :
    (d.expansion c).accessors.map (fun a => (a.name, (a.tokens (d.expansion c)).output,
      (a.tokens (d.expansion c)).gives? (d.instanceOf c value initial))) =
    (d.fields.filter fun f => (f.role? c.markers).isSome).map fun f =>
      (f.name, sign '&' :: f.type.trees, some (value f)) := by
  rw [accessors_expansion h.names, List.map_filterMap]
  refine filterMap_eq_map_filter fun f hf => ?_
  rcases hr : f.role? c.markers with _ | r
  · rfl
  · simp only [Option.map_some, MethodTokens.gives?, read?_accessor, Option.bind_some,
      run_projection h hs value initial (mem_group.2 ⟨hf, hr⟩)]
    rfl

end Reading

end Declaration

/-! ### All routes -/

/-- **Where a constructed instance keeps the values**, and where they are read. The values belong to
the annotated fields, and `initial` are the defaults of the plain ones. -/
structure Expansion.Routes (e : Expansion) (d : Declaration) (c : Config) (value : Field → α)
    (initial : Ident → α) (i : Instance α) : Prop where
  /-- The output consists of the structs and of methods with the bodies that are run. -/
  output : (e.emit c).trees = e.tokens c
  /-- Read from its tokens, each body is the code that the fields below are about. -/
  code : ConstructorCode.read? e.constructorTokens.body = some e.constructorCode ∧
    (∀ a, Projection.read? (a.tokens e).body = some (e.projection a)) ∧
    ∀ r, ConversionCall.read? c ((e.conversionCall c r).tokens c).body =
      some (e.conversionCall c r)
  /-- The parameters are the annotated fields, each of which gets its value. -/
  parameters : e.constructor.parameters.zip (d.arguments c value) =
    (Role.all.flatMap (d.members c)).map fun f => (f.parameter, value f)
  /-- From these values the body of the constructor builds the instance. -/
  constructor : e.constructorTokens.builds?
    ((e.constructor.parameters.map (·.name)).zip (d.arguments c value))
      (fun n => some (initial n)) = some i
  struct : Initialises (e.constructorCode.fields.map (·.1)) e.structCode
  groups : ∀ r, (c.storage r, .group (e.groupLiteral r)) ∈ e.constructorCode.fields ∧
    (e.groupLiteral r).record = (e.record r).name ∧
    Initialises (e.groupLiteral r).names ((e.record r).code c d)
  /-- The methods that read are those of the annotated fields. -/
  accessors : e.accessors.map (fun a => (a.name, (a.tokens e).output, (a.tokens e).gives? i)) =
    (d.fields.filter fun f => (f.role? c.markers).isSome).map fun f =>
      (f.name, sign '&' :: f.type.trees, some (value f))
  /-- The conversions of the trait hand over the groups. -/
  conversions : ∀ r, ((e.conversionCall c r).tokens c).handsOver? c i =
    some (r, d.groupOf c value r)
  /-- The plain fields stay as they are written. -/
  plainItems : e.structCode.items =
    Role.all.map e.storageField ++ (d.plainFields c).map Field.item
  plain : ∀ f ∈ d.plainFields c, (f.name, .default) ∈ e.constructorCode.fields ∧
    i.plain? f.name = some (initial f.name) ∧
    (∀ p ∈ e.constructor.parameters, p.name.name ≠ f.name.name) ∧
    ∀ a ∈ e.accessors, a.name.name ≠ f.name.name

namespace Declaration

/-- **Every value reaches its place**: a constructed instance routes each value to the group of its
field, where its accessor and the conversion of the group find it, and each default to its plain
field. -/
theorem routes_expand {e : Expansion} (h : d.expand c = .ok e)
    (hs : c.headersStorage.name ≠ c.bodyStorage.name) (value : Field → α) (initial : Ident → α) :
    ∃ i, e.construct (fun n => some (initial n)) (d.arguments c value) = some i ∧
      e.Routes d c value initial i := by
  obtain ⟨ha, rfl⟩ := expand_eq_expansion h
  refine ⟨_, construct_expansion ha.names value initial, ?_⟩
  constructor
  case output => exact Expansion.trees_emit _ c
  case code =>
    exact ⟨read?_constructor _, fun a => read?_accessor a _, fun r => read?_conversion _ c⟩
  case parameters => exact parameters_zip value
  case constructor => exact builds?_constructor ha.names value initial
  case struct =>
    rw [Initialises, names_constructorCode, fieldNames_structCode]
    exact ⟨rfl, nodup_fieldNames ha hs⟩
  case groups =>
    intro r
    refine ⟨?_, rfl, ?_⟩
    · rw [fields_constructorCode]
      exact List.mem_append_left _ (List.mem_map.2 ⟨r, Role.mem_all r, rfl⟩)
    · rw [Initialises, names_groupLiteral, fieldNames_code]
      exact ⟨rfl, nodup_members ha.names r⟩
  case accessors => exact accessors_instanceOf ha hs value initial
  case conversions =>
    intro r
    have argument : ((d.expansion c).conversionCall c r).argument? (d.instanceOf c value initial) =
        some (d.groupOf c value r) := by
      show (d.instanceOf c value initial).members? ((d.expansion c).storage.fieldOf r) = _
      rw [fieldOf_expansion, members?_instanceOf ha hs]
    rw [MethodTokens.handsOver?, read?_conversion, Option.bind_some, argument]
    rfl
  case plainItems => exact items_structCode
  case plain =>
    intro f hf
    refine ⟨?_, plain?_instanceOf ha hs value initial hf, ?_, ?_⟩
    · rw [fields_constructorCode]
      exact List.mem_append_right _ (List.mem_map.2 ⟨f, hf, rfl⟩)
    · rw [parameters_expansion]
      intro p hp
      obtain ⟨g, hg, rfl⟩ := List.mem_map.1 hp
      obtain ⟨r, -, hg⟩ := List.mem_flatMap.1 hg
      exact name_ne_plain ha.names hf (mem_group.1 hg).1 (mem_group.1 hg).2
    · rw [accessors_expansion ha.names]
      intro a hmem
      obtain ⟨g, hg, he⟩ := List.mem_filterMap.1 hmem
      obtain ⟨r, hr, rfl⟩ := Option.map_eq_some_iff.1 he
      exact name_ne_plain ha.names hf hg hr

theorem routes_mixedStruct : ∃ e i, mixedStruct.expand {} = .ok e ∧
    e.construct (fun _ => some 0) (mixedStruct.arguments {} fun f => f.name.name.length) = some i ∧
    e.Routes mixedStruct {} (fun f => f.name.name.length) (fun _ => 0) i := by
  obtain ⟨i, hi, h⟩ := routes_expand expand_mixedStruct (by decide)
    (fun f => f.name.name.length) fun _ => 0
  exact ⟨_, i, expand_mixedStruct, hi, h⟩

end Declaration

end RequestGroups
