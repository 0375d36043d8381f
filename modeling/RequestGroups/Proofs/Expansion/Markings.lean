import RequestGroups.Proofs.Declaration.SourceFields
import RequestGroups.Proofs.Expansion.FieldMaps
import RequestGroups.Proofs.Expansion.RawNames

/-! # Markers say a role and a key

Two declarations that differ in the markers on their fields, each with its own marker table, are
expanded alike if each field is marked alike: refused in both, or in the same group under the same
key (`expand_markedAlike`). Other tags for the same roles, markers that are not registered,
arguments that are no keys and keys that are the names of their fields mark fields alike.

* `Field.MarkedAlike` is what has to agree on a field, `SameOutcome` what then agrees on results;
* `ClassifiedField.canonical` keeps of a member of a group what its markers say, and
  `Partition.canonical_split` shows that nothing else is different;
* `Remarked` lists the changes of markers that make no difference. -/

namespace RequestGroups

open Source Grammar

/-! ### Fields that are marked alike -/

/-- **What has to agree on a field** under two marker tables: everything but the markers, whether
two of them are registered, and otherwise the group and the key. -/
structure Field.MarkedAlike (t t' : MarkerTable) (f f' : Field) : Prop where
  rest : f' = { f with markers := f'.markers }
  conflict : 2 ≤ (f'.registeredMarkers t').length ↔ 2 ≤ (f.registeredMarkers t).length
  role : (f.registeredMarkers t).length ≤ 1 → f'.role? t' = f.role? t
  key : (f.registeredMarkers t).length = 1 → f'.keyIn t' = f.keyIn t

/-- The declarations agree on everything but the markers, and their fields are marked alike. -/
structure Declaration.MarkedAlike (t t' : MarkerTable) (d d' : Declaration) : Prop where
  rest : d' = { d with fields := d'.fields }
  fields : List.Forall₂ (Field.MarkedAlike t t') d.fields d'.fields

/-! ### Results that agree -/

/-- The expansions agree on everything but the markers on plain fields and on the fields of the
declarations. -/
structure Expansion.SameButMarkers (e e' : Expansion) : Prop where
  headerRecord : e'.headerRecord = e.headerRecord
  bodyRecord : e'.bodyRecord = e.bodyRecord
  accessors : e'.accessors = e.accessors
  constructor : e'.constructor = e.constructor
  headersConversion : e'.headersConversion = e.headersConversion
  bodyConversion : e'.bodyConversion = e.bodyConversion
  storage : e'.storage = e.storage
  plainFields : e'.plainFields.map Field.unmarked = e.plainFields.map Field.unmarked

/-- **What agrees on two results**: the reason for which a declaration is refused, or the
expansion. -/
inductive SameOutcome : Except Diagnostic Expansion → Except Diagnostic Expansion → Prop
  | refused {x x' : Diagnostic} (id : x'.problem.id = x.problem.id) :
      SameOutcome (.error x) (.error x')
  | expanded {e e' : Expansion} (same : e.SameButMarkers e') : SameOutcome (.ok e) (.ok e')

theorem SameOutcome.of_ok {e : Expansion} {y : Except Diagnostic Expansion}
    (h : SameOutcome (.ok e) y) : ∃ e', y = .ok e' ∧ e.SameButMarkers e' := by
  cases h with
  | expanded same => exact ⟨_, rfl, same⟩

/-! ### What the markers say -/

/-- The member of a group with the key that its markers say and without the markers. -/
def ClassifiedField.canonical (m : ClassifiedField) : ClassifiedField :=
  ⟨m.field.unmarked, m.role, some m.key⟩

/-- The partition with what the markers say in place of the markers. -/
def Partition.canonical (p : Partition) : Partition :=
  p.map ClassifiedField.canonical Field.unmarked

variable {t t' : MarkerTable}

theorem Field.unmarked_of_markedAlike {f f' : Field} (h : f.MarkedAlike t t' f') :
    f'.unmarked = f.unmarked := by
  rw [h.rest]
  rfl

namespace Partition

theorem canonical_put {f f' : Field} (h : f.MarkedAlike t t' f')
    (few : (f.registeredMarkers t).length ≤ 1) {p p' : Partition}
    (hp : p'.canonical = p.canonical) : (put t' f' p').canonical = (put t f p).canonical := by
  have role := h.role few
  have headers : p'.headers.map ClassifiedField.canonical =
      p.headers.map ClassifiedField.canonical := congrArg Partition.headers hp
  have body : p'.body.map ClassifiedField.canonical =
      p.body.map ClassifiedField.canonical := congrArg Partition.body hp
  have plain : p'.plain.map Field.unmarked = p.plain.map Field.unmarked :=
    congrArg Partition.plain hp
  have unmarked := Field.unmarked_of_markedAlike h
  unfold put
  rw [role]
  rcases hr : f.role? t with _ | r
  · simp only [canonical, map, consPlain, headers, body, List.map_cons, plain, unmarked]
  · obtain ⟨m, hm⟩ := (Field.role?_eq_some (Field.length_registered ▸ few)).1 hr
    have one : (f.registeredMarkers t).length = 1 := by rw [← Field.length_registered, hm]; rfl
    have member : (f'.classified t' r).canonical = (f.classified t r).canonical := by
      simp only [ClassifiedField.canonical, Field.field_classified, Field.role_classified,
        Field.key_classified, unmarked, h.key one]
    cases r <;> simp only [canonical, map, consGroup, Field.role_classified, List.map_cons, headers,
      body, plain, member]

/-- **Nothing but what the markers say** is left of them in the split of the fields. -/
theorem canonical_split {fs fs' : List Field} (h : List.Forall₂ (Field.MarkedAlike t t') fs fs')
    (few : ∀ f ∈ fs, (f.registeredMarkers t).length ≤ 1) :
    (split t' fs').canonical = (split t fs).canonical := by
  -- field by field: what is behind a field agrees, and the field is put in front of it alike
  induction h with
  | nil => rfl
  | cons hf _ ih =>
    obtain ⟨few, fewer⟩ := List.forall_mem_cons.1 few
    rw [split_cons, split_cons]
    exact canonical_put hf few (ih fewer)

theorem idOf_violation?_canonical (p : Partition) (d : Declaration) (c : Config) :
    idOf (p.canonical.violation? (d.mapFields Field.unmarked) c) = idOf (p.violation? d c) := by
  refine map_violation? Field.unmarked ClassifiedField.canonical (fun _ => rfl) (fun _ => rfl)
    (fun _ => rfl) (fun m => ?_) p d c
  have attributes : m.canonical.field.attributes = m.field.attributes := rfl
  unfold renameClash?
  rw [attributes, Option.map_map, Option.map_map]
  rfl

end Partition

/-! ### What is generated -/

theorem GroupRecord.ofFields_canonical (name : Ident) (r : Role) (ms : List ClassifiedField) :
    ofFields name r (ms.map ClassifiedField.canonical) = ofFields name r ms := by
  unfold ofFields
  rw [List.map_map]
  rfl

theorem Constructor.ofPartition_canonical (name : Ident) (visibility : Phrase) (p : Partition) :
    ofPartition name visibility p.canonical = ofPartition name visibility p := by
  simp only [ofPartition, parametersOf, Partition.canonical, Partition.map, List.map_map]
  rfl

/-- The expansion without the markers that its plain fields and its declaration carry. -/
def Expansion.unmarked (e : Expansion) : Expansion :=
  { e with
    declaration := e.declaration.unmarked
    plainFields := e.plainFields.map Field.unmarked }

theorem Expansion.sameButMarkers {e e' : Expansion} (h : e'.unmarked = e.unmarked) :
    e.SameButMarkers e' where
  headerRecord := (congrArg Expansion.headerRecord h :)
  bodyRecord := (congrArg Expansion.bodyRecord h :)
  accessors := (congrArg Expansion.accessors h :)
  constructor := (congrArg Expansion.constructor h :)
  headersConversion := (congrArg Expansion.headersConversion h :)
  bodyConversion := (congrArg Expansion.bodyConversion h :)
  storage := (congrArg Expansion.storage h :)
  plainFields := (congrArg Expansion.plainFields h :)

namespace Declaration

variable {d d' : Declaration} {c : Config}

theorem accessors_canonical (d : Declaration) (p : Partition) :
    d.unmarked.accessors p.canonical = d.accessors p :=
  accessors_map Field.unmarked ClassifiedField.canonical (fun _ => rfl) (fun _ => rfl) d p

theorem expansionOf_canonical (d : Declaration) (p : Partition) (c : Config) :
    d.unmarked.expansionOf p.canonical c = (d.expansionOf p c).unmarked := by
  have headers := GroupRecord.ofFields_canonical (c.groupName d.name .header) .header p.headers
  have body := GroupRecord.ofFields_canonical (c.groupName d.name .body) .body p.body
  unfold expansionOf Expansion.unmarked
  rw [accessors_canonical, Constructor.ofPartition_canonical, ← headers, ← body]
  rfl

/-! ### Declarations that are marked alike -/

section Alike

variable (h : d.MarkedAlike c.markers t' d')
include h

theorem unmarked_of_markedAlike : d'.unmarked = d.unmarked := by
  have fields : d'.fields.map Field.unmarked = d.fields.map Field.unmarked :=
    forall₂_iff_map_eq.1 (h.fields.imp fun _ _ => Field.unmarked_of_markedAlike)
  rw [unmarked, fields, h.rest]
  rfl

theorem few_markers_iff : (∀ f ∈ d'.fields, (f.registered t').length ≤ 1) ↔
    ∀ f ∈ d.fields, (f.registered c.markers).length ≤ 1 := by
  have fields := h.fields
  generalize d.fields = fs, d'.fields = fs' at fields
  induction fields with
  | nil => exact iff_of_true (List.forall_mem_nil _) (List.forall_mem_nil _)
  | cons hf _ ih =>
    have conflict := hf.conflict
    rw [List.forall_mem_cons, List.forall_mem_cons, Field.length_registered,
      Field.length_registered]
    exact and_congr (by omega) ih

/-- **The reason for which a declaration is refused** is the same. -/
theorem problemId?_markedAlike :
    d'.problemId? { c with markers := t' } = d.problemId? c := by
  have unmarked := unmarked_of_markedAlike h
  have violation : d'.violation? = d.violation? := by
    rw [← violation?_mapFields Field.unmarked (fun _ => rfl) d,
      ← violation?_mapFields Field.unmarked (fun _ => rfl) d']
    exact congrArg violation? unmarked
  have partitionProblem :
      idOf (d'.partitionProblem? t') = idOf (d.partitionProblem? c.markers) := by
    rw [idOf_partitionProblem?, idOf_partitionProblem?]
    exact if_congr (few_markers_iff h) rfl rfl
  rw [problemId?_eq, problemId?_eq, violation, partitionProblem, idOf_partitionProblem?]
  split
  · next few =>
    -- both declarations have a split, and the checks of the splits give the same answer
    have split := Partition.canonical_split h.fields fun f hf =>
      Field.length_registered (t := c.markers) ▸ few f hf
    refine congrArg (idOf d.violation? <|> none <|> ·) ?_
    calc idOf ((Partition.split t' d'.fields).violation? d' { c with markers := t' })
        = idOf ((Partition.split t' d'.fields).canonical.violation? d'.unmarked
            { c with markers := t' }) := (Partition.idOf_violation?_canonical ..).symm
      _ = idOf ((Partition.split c.markers d.fields).canonical.violation? d.unmarked c) := by
        rw [split, unmarked]
        rfl
      _ = idOf ((Partition.split c.markers d.fields).violation? d c) :=
        Partition.idOf_violation?_canonical ..
  · rcases idOf d.violation? <;> rfl

theorem unmarked_expansion_markedAlike
    (few : ∀ f ∈ d.fields, (f.registered c.markers).length ≤ 1) :
    (d'.expansion { c with markers := t' }).unmarked = (d.expansion c).unmarked := by
  have split := Partition.canonical_split h.fields fun f hf =>
    Field.length_registered (t := c.markers) ▸ few f hf
  calc (d'.expansion { c with markers := t' }).unmarked
      = d'.unmarked.expansionOf (Partition.split t' d'.fields).canonical
          { c with markers := t' } := (expansionOf_canonical ..).symm
    _ = d.unmarked.expansionOf (Partition.split c.markers d.fields).canonical c := by
      rw [split, unmarked_of_markedAlike h]
      rfl
    _ = (d.expansion c).unmarked := expansionOf_canonical ..

theorem sameOutcome_of_markedAlike :
    SameOutcome (d.expand c) (d'.expand { c with markers := t' }) := by
  have same := problemId?_markedAlike h
  unfold problemId? at same
  rcases hd : d.expand c with x | e <;>
    rcases hd' : d'.expand { c with markers := t' } with x' | e' <;> rw [hd, hd'] at same
  · exact .refused (Option.some.inj same)
  · cases same
  · cases same
  · obtain ⟨accepted, rfl⟩ := expand_eq_expansion hd
    obtain ⟨-, rfl⟩ := expand_eq_expansion hd'
    exact .expanded (Expansion.sameButMarkers (unmarked_expansion_markedAlike h accepted.markers))

end Alike

end Declaration

/-! ### Changes that make no difference -/

/-- The arguments give the same key to a field of the given name. -/
inductive MarkerArgument.Alternative (name : String) : MarkerArgument → MarkerArgument → Prop
  | same (a : MarkerArgument) : Alternative name a a
  /-- Neither of them is a string. -/
  | keyless {a b : MarkerArgument} (ha : a.key? = Option.none) (hb : b.key? = Option.none) :
      Alternative name a b
  /-- One is no string, the other one is the name of the field. -/
  | spelledOut {a : MarkerArgument} (ha : a.key? = Option.none) : Alternative name a (.string name)

/-- **Changes of the markers** on a field of the given name, and of the marker table. -/
inductive Remarked (t t' : MarkerTable) (name : String) : List Marker → List Marker → Prop
  | nil : Remarked t t' name [] []
  /-- A marker has another tag with the same role or an alternative argument. -/
  | marker {m m' : Marker} {ms ms' : List Marker} (tag : t'.roleOf m'.tag = t.roleOf m.tag)
      (argument : m.argument.Alternative name m'.argument) (rest : Remarked t t' name ms ms') :
      Remarked t t' name (m :: ms) (m' :: ms')
  /-- A marker is added whose tag is not registered. -/
  | added {m : Marker} {ms ms' : List Marker} (unregistered : t'.roleOf m.tag = none)
      (rest : Remarked t t' name ms ms') : Remarked t t' name ms (m :: ms')

structure Field.Remarked (t t' : MarkerTable) (f f' : Field) : Prop where
  rest : f' = { f with markers := f'.markers }
  markers : RequestGroups.Remarked t t' f.name.name f.markers f'.markers

/-- Only the markers on the fields of the declaration are changed. -/
structure Declaration.Remarked (t t' : MarkerTable) (d d' : Declaration) : Prop where
  rest : d' = { d with fields := d'.fields }
  fields : List.Forall₂ (Field.Remarked t t') d.fields d'.fields

/-- The roles and the keys that the registered markers give to a field of the given name. -/
def meanings (t : MarkerTable) (name : String) (ms : List Marker) : List (Role × String) :=
  ms.filterMap fun m => (t.roleOf m.tag).map (·, m.argument.key?.getD name)

namespace Field

theorem meanings_eq_map (f : Field) : meanings t f.name.name f.markers =
    (f.registered t).map fun (m, r) => (r, m.argument.key?.getD f.name.name) := by
  unfold meanings registered
  rw [List.map_filterMap]
  refine List.filterMap_congr fun m _ => ?_
  rw [Option.map_map]
  rfl

theorem length_meanings (f : Field) :
    (meanings t f.name.name f.markers).length = (f.registeredMarkers t).length := by
  rw [meanings_eq_map, List.length_map, length_registered]

theorem role?_eq_meanings (f : Field) :
    f.role? t = (meanings t f.name.name f.markers).head?.map (·.1) := by
  rw [meanings_eq_map, List.head?_map, Option.map_map]
  rfl

theorem keyIn_eq_meanings (f : Field) : f.keyIn t =
    ((meanings t f.name.name f.markers).head?.map (·.2)).getD f.name.name := by
  rw [meanings_eq_map, List.head?_map, keyIn, explicitKey?]
  rcases (f.registered t).head? with _ | _ <;> rfl

end Field

theorem key?_of_alternative {name : String} {a b : MarkerArgument} (h : a.Alternative name b) :
    b.key?.getD name = a.key?.getD name := by
  cases h with
  | same => rfl
  | keyless ha hb => rw [ha, hb]
  | spelledOut ha => rw [ha]; rfl

/-- **The changes keep the meaning** of each marker and bring no other one. -/
theorem meanings_remarked {name : String} {ms ms' : List Marker}
    (h : Remarked t t' name ms ms') : meanings t' name ms' = meanings t name ms := by
  unfold meanings
  induction h with
  | nil => rfl
  | marker tag argument _ ih =>
    rw [List.filterMap_cons, List.filterMap_cons, tag, key?_of_alternative argument, ih]
  | added unregistered _ ih =>
    rw [List.filterMap_cons_none (by rw [unregistered]; rfl), ih]

theorem Field.markedAlike_of_remarked {f f' : Field} (h : f.Remarked t t' f') :
    f.MarkedAlike t t' f' := by
  have name : f'.name = f.name := by rw [h.rest]
  have same : meanings t' f'.name.name f'.markers = meanings t f.name.name f.markers := by
    rw [name]
    exact meanings_remarked h.markers
  refine ⟨h.rest, ?_, fun _ => ?_, fun _ => ?_⟩
  · rw [← length_meanings, ← length_meanings, same]
  · rw [role?_eq_meanings, role?_eq_meanings, same]
  · rw [keyIn_eq_meanings, keyIn_eq_meanings, same, name]

namespace Declaration

theorem markedAlike_of_remarked {d d' : Declaration} (h : d.Remarked t t' d') :
    d.MarkedAlike t t' d' :=
  ⟨h.rest, h.fields.imp fun _ _ => Field.markedAlike_of_remarked⟩

/-- **Markers say a role and a key, and nothing else.** Declarations whose fields are marked alike
are expanded alike; and so is a declaration with other tags for the same roles, with more markers
that are not registered, with other arguments that are no keys and with keys that are the names of
their fields. -/
theorem expand_markedAlike (d d' : Declaration) (c : Config) (t' : MarkerTable) :
    (d.MarkedAlike c.markers t' d' →
      SameOutcome (d.expand c) (d'.expand { c with markers := t' })) ∧
    (d.Remarked c.markers t' d' →
      SameOutcome (d.expand c) (d'.expand { c with markers := t' })) :=
  ⟨sameOutcome_of_markedAlike, fun h => sameOutcome_of_markedAlike (markedAlike_of_remarked h)⟩

/-- The default tags, and a second one for headers. -/
def aliasTable : MarkerTable := MarkerTable.default.register "meta" .header

/-- The struct of fields of all kinds with other markers: a second tag, a marker that is not
registered, the name of a field as its key and an argument that is no key. -/
def remarkedStruct : Declaration :=
  { mixedStruct with fields := [
    ⟨.plain "id", Phrase.word "u64", [], [⟨.plain "meta", .string "X-Id"⟩], []⟩,
    ⟨.plain "note", Phrase.word "bool", [], [⟨.plain "column", .string "n"⟩], []⟩,
    ⟨⟨true, "type", .callSite⟩, Phrase.word "u8", [], [⟨.plain "body", .string "type"⟩], []⟩,
    ⟨.plain "token", Phrase.word "String", [], [⟨.plain "header", .other⟩], []⟩] }

theorem remarked_remarkedStruct : mixedStruct.Remarked .default aliasTable remarkedStruct where
  rest := rfl
  fields := .cons ⟨rfl, .marker (by decide) (.same _) .nil⟩ <|
    .cons ⟨rfl, .added (by decide) .nil⟩ <|
    .cons ⟨rfl, .marker (by decide) (.spelledOut rfl) .nil⟩ <|
    .cons ⟨rfl, .marker (by decide) (.keyless rfl rfl) .nil⟩ .nil

theorem markedAlike_remarkedStruct :
    mixedStruct.MarkedAlike .default aliasTable remarkedStruct where
  rest := rfl
  fields := .cons ⟨rfl, by decide, by decide, by decide⟩ <|
    .cons ⟨rfl, by decide, by decide, by decide⟩ <|
    .cons ⟨rfl, by decide, by decide, by decide⟩ <|
    .cons ⟨rfl, by decide, by decide, by decide⟩ .nil

theorem expand_remarkedStruct : mixedStruct.MarkedAlike .default aliasTable remarkedStruct ∧
    SameOutcome (mixedStruct.expand {}) (remarkedStruct.expand { markers := aliasTable }) ∧
    mixedStruct.Remarked .default aliasTable remarkedStruct ∧
    ∃ e', remarkedStruct.expand { markers := aliasTable } = .ok e' ∧
      (mixedStruct.expansion {}).SameButMarkers e' := by
  obtain ⟨alike, remarked⟩ := expand_markedAlike mixedStruct remarkedStruct {} aliasTable
  have outcome := remarked remarked_remarkedStruct
  rw [expand_mixedStruct] at outcome
  exact ⟨markedAlike_remarkedStruct, alike markedAlike_remarkedStruct, remarked_remarkedStruct,
    outcome.of_ok⟩

end Declaration

end RequestGroups
