import Mathlib.Algebra.Order.Group.Multiset
import Mathlib.Tactic.Abel
import RequestGroups.Expansion.Expand
import RequestGroups.Proofs.Declaration.SourceFields
import RequestGroups.Proofs.Expansion.Emission
import RequestGroups.Proofs.Grammar.Assignment

/-! # Where the attributes of a struct go

The attributes of a field are split twice: markers go, and of the others the documentation of an
annotated field goes to its accessor and the rest to the field of the group record. No attribute is
lost or doubled on the way.

* `emit_eq`: the output consists of structs and implementations, whose attributes are
  `blockAttributes` and whose fields and methods have `memberAttributes`;
* `items_code`, `items_plain`, `attributes_accessors`: the attributes of each piece;
* `perm_memberAttributes`: the attributes of all pieces together;
* `renameEntries_grouped`: a field of a group record is renamed once, to its key;
* `Expansion.Conserves` collects these facts, and `conserves_expand` says that they hold for every
  struct. -/

namespace RequestGroups

open Source Grammar

variable {c : Config} {t : MarkerTable} {s : StructItem}

/-! ### Pieces of the output -/

/-- The attributes of the fields of a struct. -/
def Grammar.StructItem.fieldAttributes (s : StructItem) : List Attribute :=
  s.items.flatMap (·.attributes)

/-- An implementation: what stands in front of its braces, and its methods. -/
structure Implementation where
  attributes : List Attribute
  head : Phrase
  methods : List Method

/-- The implementation as a phrase. -/
def Implementation.phrase (i : Implementation) : Phrase :=
  Attribute.phraseOf i.attributes ++ i.head ++ Phrase.group .brace (i.methods.flatMap Method.phrase)

/-- The attribute on the implementation of the methods. -/
def unusedAttribute : Attribute := attributeOf "allow" (Phrase.word "dead_code").trees

/-- The attribute on accessors. -/
def inlineAttribute : Attribute := ⟨false, ⟨.ofNames false ["inline"], .none, .callSite⟩⟩

namespace Expansion

/-- The structs of an expansion: the records of the groups and the declared struct. -/
def structs (e : Expansion) (c : Config) : List StructItem :=
  Role.all.map (fun r => (e.record r).code c e.declaration) ++ [e.structCode]

/-- The implementations of an expansion: the one with the methods and the one of the trait. -/
def implementations (e : Expansion) (c : Config) : List Implementation := [
  ⟨[unusedAttribute], Phrase.word "impl" ++ Phrase.ident e.declaration.name, e.methods c⟩,
  ⟨[], Phrase.word "impl" ++ c.runtimeName ["RequestModel"] ++ Phrase.word "for" ++
    Phrase.ident e.declaration.name, e.traitMethods c⟩]

/-- **The output** consists of structs and implementations. -/
theorem emit_eq (e : Expansion) (c : Config) : e.emit c =
    (e.structs c).flatMap StructItem.phrase ++
      (e.implementations c).flatMap Implementation.phrase := by
  rw [emit, records_emitParts, implementation_emitParts]
  simp [structs, implementations, Implementation.phrase, Role.all, GroupRecord.emit, emitStruct,
    emitMethods, implementation, emitTrait, Attribute.phraseOf, record, unusedAttribute]

/-- The attributes of the structs and implementations themselves. -/
def blockAttributes (e : Expansion) (c : Config) : List Attribute :=
  (e.structs c).flatMap (·.attributes) ++ (e.implementations c).flatMap (·.attributes)

/-- The attributes of all fields and methods. -/
def memberAttributes (e : Expansion) (c : Config) : List Attribute :=
  (e.structs c).flatMap StructItem.fieldAttributes ++
    (e.implementations c).flatMap fun i => i.methods.flatMap (·.attributes)

/-- The attributes that an expansion adds on the methods. -/
def addedToMethods (e : Expansion) (c : Config) : List Attribute :=
  e.accessors.map (fun _ => inlineAttribute) ++
    [e.headersConversion.method e c, e.bodyConversion.method e c, e.constructorMethod].flatMap
      (·.attributes)

/-- The attributes that an expansion adds on the fields of a group record: their keys. -/
def addedToFields (e : Expansion) (r : Role) : List Attribute :=
  (e.record r).fields.map (GroupRecord.keyAttribute ·.key)

/-- The attributes that an expansion adds on fields and methods. -/
def addedToMembers (e : Expansion) (c : Config) : List Attribute :=
  Role.all.flatMap e.addedToFields ++ e.addedToMethods c

theorem memberAttributes_eq (e : Expansion) (c : Config) : e.memberAttributes c =
    StructItem.fieldAttributes ((e.record .header).code c e.declaration) ++
      (StructItem.fieldAttributes ((e.record .body).code c e.declaration) ++
        (e.structCode.fieldAttributes ++ (e.methods c).flatMap (·.attributes))) := by
  simp [memberAttributes, structs, implementations, Role.all, traitMethods, ConversionCall.method]

theorem blockAttributes_eq (e : Expansion) (c : Config) : e.blockAttributes c =
    Role.all.flatMap (fun _ => [GroupRecord.deriveAttribute (GroupRecord.derives c e.declaration),
      GroupRecord.crateAttribute c]) ++ e.declaration.attributes ++ [unusedAttribute] := by
  simp [blockAttributes, structs, implementations, Role.all, GroupRecord.code, structCode]

end Expansion

/-! ### The fields of a struct by role -/

namespace Grammar

/-- The field of a group record that a field becomes. -/
def FieldItem.grouped (t : MarkerTable) (f : FieldItem) : FieldItem :=
  ⟨f.others t ++ [GroupRecord.keyAttribute (f.keyIn t)], [], f.name, f.type⟩

namespace StructItem

/-- The fields of a struct that belong to a given group. -/
def membersOf (t : MarkerTable) (s : StructItem) (r : Role) : List FieldItem :=
  s.namedFields.filter fun f => f.role? t = some r

/-- The fields of a struct that belong to no group. -/
def plainItems (t : MarkerTable) (s : StructItem) : List FieldItem :=
  s.namedFields.filter fun f => f.role? t = none

/-- The fields of a struct that belong to a group. -/
def annotatedItems (t : MarkerTable) (s : StructItem) : List FieldItem :=
  s.namedFields.filter fun f => (f.role? t).isSome

/-- Every field belongs to a group or to none. -/
theorem perm_namedFields : s.namedFields.Perm (s.plainItems t ++ s.annotatedItems t) := by
  have split := List.filter_append_perm (fun f => f.role? t = none) s.namedFields
  have other : (fun f : FieldItem => !decide (f.role? t = none)) = fun f => (f.role? t).isSome := by
    funext f
    rcases f.role? t with _ | _ <;> rfl
  rw [other] at split
  exact split.symm

/-- The fields that belong to a group are those of the headers and those of the body. -/
theorem perm_annotatedItems :
    (s.annotatedItems t).Perm (s.membersOf t .header ++ s.membersOf t .body) := by
  have split := List.filter_append_perm (fun f => f.role? t = some .header) (s.annotatedItems t)
  rw [annotatedItems, List.filter_filter, List.filter_filter] at split
  -- a role that is there and is not the first one is the second one
  have header : (fun f : FieldItem => decide (f.role? t = some .header) && (f.role? t).isSome) =
      fun f => decide (f.role? t = some .header) := by
    funext f
    rcases f.role? t with _ | _ | _ <;> rfl
  have body : (fun f : FieldItem => !decide (f.role? t = some .header) && (f.role? t).isSome) =
      fun f => decide (f.role? t = some .body) := by
    funext f
    rcases f.role? t with _ | _ | _ <;> rfl
  rw [header, body] at split
  exact split.symm

/-- The kept attributes of all fields are those of the plain fields, and of the others the
documentation and the rest, group by group. -/
theorem perm_flatMap_kept : (s.namedFields.flatMap (·.kept t)).Perm
    ((s.plainItems t).flatMap (·.attributes) ++ ((s.annotatedItems t).flatMap (·.docs t) ++
      ((s.membersOf t .header).flatMap (·.others t) ++
        (s.membersOf t .body).flatMap (·.others t)))) := by
  have plain : (s.plainItems t).flatMap (·.kept t) = (s.plainItems t).flatMap (·.attributes) :=
    List.flatMap_congr fun f hf =>
      FieldItem.kept_of_role?_eq_none (of_decide_eq_true (List.mem_filter.1 hf).2)
  have annotated : ((s.annotatedItems t).flatMap (·.kept t)).Perm
      ((s.annotatedItems t).flatMap (·.docs t) ++ (s.annotatedItems t).flatMap (·.others t)) :=
    (List.Perm.flatMap_left _ fun f _ => (List.filter_append_perm _ (f.kept t)).symm).trans
      (List.flatMap_append_perm _ _ _).symm
  have groups := (perm_annotatedItems (t := t) (s := s)).flatMap_right (·.others t)
  rw [List.flatMap_append] at groups
  refine ((perm_namedFields (t := t)).flatMap_right _).trans ?_
  rw [List.flatMap_append, plain]
  exact (annotated.trans (groups.append_left _)).append_left _

end StructItem

end Grammar

/-! ### The attributes of each piece -/

namespace Declaration

variable {derives : List Path}

/-- The expansion of the declaration of a struct. -/
abbrev structExpansion (s : StructItem) (derives : List Path) (c : Config) : Expansion :=
  (ofStruct c.markers s derives).expansion c

/-- The fields of a group record have the attributes of the fields of the group that are no
documentation, and each of them the attribute with its key. -/
theorem items_code (r : Role) (d : Declaration) :
    StructItem.items (((structExpansion s derives c).record r).code c d) =
      (s.membersOf c.markers r).map (FieldItem.grouped c.markers) := by
  have fields : StructItem.items (((structExpansion s derives c).record r).code c d) =
      ((fieldsOf c.markers s).filter fun f => f.role? c.markers = some r).map fun f =>
        GroupRecord.fieldCode (f.grouped c.markers) := by
    rw [record_expansion, StructItem.items, GroupRecord.code]
    exact List.map_map
  rw [fields]
  refine map_filter_fieldsOf (· = some r) fun f g hg _ => ?_
  have key := Field.keyIn_ofItem? hg
  obtain ⟨name, hn, rfl⟩ := Option.map_eq_some_iff.1 hg
  rw [FieldItem.grouped, ← key, hn]
  rfl

/-- Plain fields stay as they are. -/
theorem items_plain : ((ofStruct c.markers s derives).plainFields c).map Field.item =
    s.plainItems c.markers := by
  have items : ((ofStruct c.markers s derives).plainFields c).map Field.item =
      (s.plainItems c.markers).map id := by
    refine map_filter_fieldsOf (· = none) fun f g hg hf => ?_
    have attributes : g.attributes = f.attributes := (Field.attributes_ofItem? hg).trans
      (FieldItem.kept_of_role?_eq_none (of_decide_eq_true hf))
    have name := Field.name_ofItem? hg
    obtain ⟨_, -, rfl⟩ := Option.map_eq_some_iff.1 hg
    rw [Field.item, id, attributes, name]
  rw [items, List.map_id]

/-- The accessors have the documentation of their fields. -/
theorem attributes_accessors (h : ((ofStruct c.markers s derives).fields.map (·.name.name)).Nodup)
    (e : Expansion) :
    (structExpansion s derives c).accessors.map (fun a => (some a.name, (a.method e).attributes)) =
      (s.annotatedItems c.markers).map
        fun f => (f.name, f.docs c.markers ++ [inlineAttribute]) := by
  rw [accessors_expansion h, List.map_filterMap, filterMap_eq_map_filter
    (p := fun f => (f.role? c.markers).isSome)
    (g := fun f => (some f.name, f.docs ++ [inlineAttribute]))]
  · refine map_filter_fieldsOf Option.isSome fun f g hg _ => ?_
    obtain ⟨name, hn, rfl⟩ := Option.map_eq_some_iff.1 hg
    rw [hn]
    rfl
  · intro f _
    cases f.role? c.markers <;> rfl

/-! ### All attributes together -/

/-- A group record has the keys of its fields, and what the fields have beside documentation. -/
theorem perm_fieldAttributes_code (r : Role) (d : Declaration) :
    (StructItem.fieldAttributes (((structExpansion s derives c).record r).code c d)).Perm
      ((structExpansion s derives c).addedToFields r ++
        (s.membersOf c.markers r).flatMap (·.others c.markers)) := by
  have keys : (structExpansion s derives c).addedToFields r =
      (s.membersOf c.markers r).flatMap
        fun f => [GroupRecord.keyAttribute (f.keyIn c.markers)] := by
    rw [Expansion.addedToFields, record_expansion, List.map_map, ← List.map_eq_flatMap]
    refine map_filter_fieldsOf (· = some r) fun f g hg _ => ?_
    rw [← Field.keyIn_ofItem? hg]
    rfl
  rw [StructItem.fieldAttributes, items_code, List.flatMap_map, keys]
  exact (List.flatMap_append_perm _ _ _).symm.trans List.perm_append_comm

/-- The declared struct has the attributes of the plain fields. -/
theorem fieldAttributes_structCode : (structExpansion s derives c).structCode.fieldAttributes =
    (s.plainItems c.markers).flatMap (·.attributes) := by
  rw [StructItem.fieldAttributes, items_structCode, items_plain, List.flatMap_append]
  rfl

/-- The methods have what is added, and the documentation of the annotated fields. -/
theorem perm_attributes_methods
    (h : ((ofStruct c.markers s derives).fields.map (·.name.name)).Nodup) :
    (((structExpansion s derives c).methods c).flatMap (·.attributes)).Perm
      ((structExpansion s derives c).addedToMethods c ++
        (s.annotatedItems c.markers).flatMap (·.docs c.markers)) := by
  have accessors := attributes_accessors h (structExpansion s derives c)
  generalize structExpansion s derives c = e at accessors ⊢
  -- only the attributes of the accessors count, and how many accessors there are
  have attributes : e.accessors.flatMap (fun a => (a.method e).attributes) =
      (s.annotatedItems c.markers).flatMap fun f => f.docs c.markers ++ [inlineAttribute] := by
    simpa only [List.flatMap_map] using congrArg (List.flatMap (·.2)) accessors
  have inline : e.accessors.map (fun _ => inlineAttribute) =
      (s.annotatedItems c.markers).flatMap fun _ => [inlineAttribute] := by
    have each := congrArg (List.map fun _ => inlineAttribute) accessors
    rw [List.map_map, List.map_map] at each
    rw [← List.map_eq_flatMap]
    exact each
  rw [Expansion.methods, List.flatMap_append, List.flatMap_map, attributes,
    Expansion.addedToMethods, inline]
  refine ((List.flatMap_append_perm _ _ _).symm.append_right _).trans ?_
  rw [List.append_assoc]
  exact List.perm_append_comm

end Declaration

/-- Pieces that are sorted into what is added and what is taken over can be sorted as a whole. -/
theorem perm_gather {header body methods addedHeader addedBody addedMethods otherHeader otherBody
    docs plain kept : List α} (hheader : header.Perm (addedHeader ++ otherHeader))
    (hbody : body.Perm (addedBody ++ otherBody)) (hmethods : methods.Perm (addedMethods ++ docs))
    (hkept : kept.Perm (plain ++ (docs ++ (otherHeader ++ otherBody)))) :
    (header ++ (body ++ (plain ++ methods))).Perm
      (addedHeader ++ addedBody ++ addedMethods ++ kept) := by
  rw [← Multiset.coe_eq_coe] at *
  simp only [← Multiset.coe_add] at *
  rw [hheader, hbody, hmethods, hkept]
  abel

/-- **Attributes are conserved**: the fields and methods have the attributes that the expansion
adds and the kept ones of the fields, each as often as it is written. -/
theorem Declaration.perm_memberAttributes {derives : List Path}
    (h : ((ofStruct c.markers s derives).fields.map (·.name.name)).Nodup) :
    ((structExpansion s derives c).memberAttributes c).Perm
      ((structExpansion s derives c).addedToMembers c ++
        s.namedFields.flatMap (·.kept c.markers)) := by
  have added : Role.all.flatMap (structExpansion s derives c).addedToFields =
      (structExpansion s derives c).addedToFields .header ++
        (structExpansion s derives c).addedToFields .body := by
    simp [Role.all]
  rw [Expansion.memberAttributes_eq, fieldAttributes_structCode, Expansion.addedToMembers, added]
  exact perm_gather (perm_fieldAttributes_code .header _) (perm_fieldAttributes_code .body _)
    (perm_attributes_methods h) StructItem.perm_flatMap_kept

/-! ### One rename for each field of a group record -/

/-- The entries that give another name, among those that `serde` attributes list. -/
def renameEntries (as : List Attribute) : List Entry :=
  ((as.filter (·.path.isName "serde")).filterMap Attribute.entries?).flatten.filter Entry.isRename

theorem renameEntries_append (as bs : List Attribute) :
    renameEntries (as ++ bs) = renameEntries as ++ renameEntries bs := by
  simp [renameEntries]

theorem renameEntries_eq_nil {as : List Attribute}
    (h : ∀ a ∈ as, ¬ Renaming (Entry.isRename ·) a) : renameEntries as = [] := by
  refine List.filter_eq_nil_iff.2 fun x hx hr => ?_
  obtain ⟨es, hes, hx⟩ := List.mem_flatten.1 hx
  obtain ⟨a, ha, he⟩ := List.mem_filterMap.1 hes
  obtain ⟨ha, hs⟩ := List.mem_filter.1 ha
  exact h a ha ⟨hs, es, he, x, hx, hr⟩

/-- The attribute with the key of a field renames it to this key. -/
theorem renameEntries_keyAttribute (key : String) :
    ∃ x, renameEntries [GroupRecord.keyAttribute key] = [x] ∧ x.stringValue? = some key := by
  have name : Look.isName (.plain "rename") := by decide
  obtain ⟨x, hx, hp, hv⟩ := entries?_attributeOf name "serde" key
  refine ⟨x, ?_, hv⟩
  have serde : (GroupRecord.keyAttribute key).path.isName "serde" :=
    (by decide : (Path.ofNames false ["serde"]).isName "serde")
  have rename : x.isRename := by
    rw [Entry.isRename, hp]
    decide
  have entries : (GroupRecord.keyAttribute key).entries? = some [x] := hx
  simp [renameEntries, serde, entries, rename]

/-- A field of a group record is renamed once, to its key. -/
theorem renameEntries_grouped {f : FieldItem}
    (h : ∀ a ∈ f.kept t, ¬ Renaming (Entry.isRename ·) a) :
    ∃ x, renameEntries (f.grouped t).attributes = [x] ∧ x.stringValue? = some (f.keyIn t) := by
  have others : renameEntries (f.others t) = [] :=
    renameEntries_eq_nil fun a ha => h a (List.mem_filter.1 ha).1
  obtain ⟨x, hx, hv⟩ := renameEntries_keyAttribute (f.keyIn t)
  exact ⟨x, by rw [FieldItem.grouped, renameEntries_append, others, hx]; rfl, hv⟩

/-! ### Documentation -/

/-- The path `doc` makes an attribute documentation. -/
theorem Grammar.Attribute.isDoc_eq (a : Attribute) :
    a.isDoc = decide (a.path.ident?.map Ident.spelling = some "doc") := by
  rw [isDoc, Path.isName, Bool.eq_iff_iff]
  cases a.path.ident? <;> simp [Ident.spells]

theorem Grammar.FieldItem.docs_eq (f : FieldItem) : f.docs t = (f.kept t).filter
    fun a => a.path.ident?.map Ident.spelling = some "doc" :=
  List.filter_congr fun a _ => a.isDoc_eq

theorem Grammar.FieldItem.others_eq (f : FieldItem) : f.others t = (f.kept t).filter
    fun a => a.path.ident?.map Ident.spelling ≠ some "doc" := by
  refine List.filter_congr fun a _ => ?_
  rw [a.isDoc_eq, decide_not]

/-! ### Expansions of structs -/

/-- **What becomes of the attributes** of a struct and of its fields. -/
structure Expansion.Conserves (e : Expansion) (c : Config) (s : StructItem) : Prop where
  /-- The output consists of structs and implementations. -/
  output : e.emit c = (e.structs c).flatMap StructItem.phrase ++
    (e.implementations c).flatMap Implementation.phrase
  item : e.structCode.attributes = s.attributes
  /-- Plain fields keep all of their attributes. -/
  plain : e.structCode.items = Role.all.map e.storageField ++ s.plainItems c.markers ∧
    ∀ f ∈ s.plainItems c.markers, f.kept c.markers = f.attributes
  /-- Annotated fields keep theirs in the group record, up to documentation, in front of the key. -/
  grouped : ∀ r, StructItem.items ((e.record r).code c e.declaration) =
    (s.membersOf c.markers r).map (FieldItem.grouped c.markers)
  /-- Documentation is what has the single name `doc` as its path. -/
  documentation : ∀ f : FieldItem,
    f.docs c.markers = (f.kept c.markers).filter
      (fun a => a.path.ident?.map Ident.spelling = some "doc") ∧
    f.others c.markers = (f.kept c.markers).filter
      fun a => a.path.ident?.map Ident.spelling ≠ some "doc"
  /-- The documentation of annotated fields is in front of their accessors. -/
  accessors : e.accessors.map (fun a => (some a.name, (a.method e).attributes)) =
    (s.annotatedItems c.markers).map fun f => (f.name, f.docs c.markers ++ [inlineAttribute])
  /-- Structs and methods are written with their attributes first. -/
  structs : ∀ q ∈ e.structs c, q.phrase.trees = q.tokens
  methods : ∀ i ∈ e.implementations c, ∀ m ∈ i.methods, m.phrase.trees = m.tokens.trees
  /-- No attribute is lost, doubled or anywhere else. -/
  members : (e.memberAttributes c).Perm
    (e.addedToMembers c ++ s.namedFields.flatMap (·.kept c.markers))
  blocks : e.blockAttributes c = Role.all.flatMap (fun _ =>
      [GroupRecord.deriveAttribute (GroupRecord.derives c e.declaration),
        GroupRecord.crateAttribute c]) ++ s.attributes ++ [unusedAttribute]
  /-- An attribute on a field or method is no marker, unless the expansion has added it. -/
  markers : ∀ a ∈ e.memberAttributes c, a ∈ e.addedToMembers c ∨ c.markers.isMarker a = false
  /-- Fields of group records are renamed once, to their keys. -/
  renames : ∀ f ∈ s.annotatedItems c.markers,
    ∃ x, renameEntries (f.grouped c.markers).attributes = [x] ∧
      x.stringValue? = some (f.keyIn c.markers)

/-- A struct has an expansion if its derives can be read and its declaration can be expanded. -/
theorem expansionOf_struct {e : Expansion} (h : expansionOf c (.struct s) = .ok e) :
    ∃ derives, Derives.ofAttributes s.attributes = .ok derives ∧
      (Declaration.ofStruct c.markers s derives).expand c = .ok e := by
  obtain ⟨d, hd, he⟩ := Outcome.bind_eq_ok.1 h
  obtain ⟨derives, hs, rfl⟩ := Declaration.ofItem_struct.1 (Outcome.mapError_eq_ok.1 hd)
  exact ⟨derives, hs, Outcome.mapError_eq_ok.1 he⟩

theorem Config.expand_eq_ok {i : Item} {tokens : List TokenTree} :
    c.expand i = .ok tokens ↔ ∃ e, expansionOf c i = .ok e ∧ (e.emit c).trees = tokens := by
  rw [expand, Outcome.bind_eq_ok]
  exact exists_congr fun e => and_congr_right fun _ => ⟨Except.ok.inj, congrArg _⟩

/-- **The attributes of fields are conserved** whenever a struct is expanded. -/
theorem conserves_expand {tokens : List TokenTree} (h : c.expand (.struct s) = .ok tokens) :
    ∃ e, expansionOf c (.struct s) = .ok e ∧ (e.emit c).trees = tokens ∧ e.Conserves c s := by
  obtain ⟨e, he, htokens⟩ := Config.expand_eq_ok.1 h
  refine ⟨e, he, htokens, ?_⟩
  obtain ⟨derives, -, hd⟩ := expansionOf_struct he
  obtain ⟨ha, rfl⟩ := Declaration.expand_eq_expansion hd
  have members : ((Declaration.structExpansion s derives c).memberAttributes c).Perm _ :=
    Declaration.perm_memberAttributes ha.names
  constructor
  case output => exact Expansion.emit_eq _ c
  case item => rfl
  case plain =>
    refine ⟨by rw [Declaration.items_structCode, Declaration.items_plain], fun f hf => ?_⟩
    exact FieldItem.kept_of_role?_eq_none (of_decide_eq_true (List.mem_filter.1 hf).2)
  case grouped => exact fun r => Declaration.items_code r _
  case documentation => exact fun f => ⟨f.docs_eq, f.others_eq⟩
  case accessors => exact Declaration.attributes_accessors ha.names _
  case structs =>
    intro q hq
    rcases List.mem_append.1 hq with hq | hq
    · obtain ⟨r, -, rfl⟩ := List.mem_map.1 hq
      exact trees_emitRecord _ _
    · rw [List.mem_singleton.1 hq]
      exact trees_emitStruct _
  case methods => exact fun _ _ m _ => m.trees_phrase
  case members => exact members
  case blocks => exact Expansion.blockAttributes_eq _ c
  case markers =>
    intro a hmem
    refine (List.mem_append.1 (members.mem_iff.1 hmem)).imp_right fun hkept => ?_
    obtain ⟨f, -, hf⟩ := List.mem_flatMap.1 hkept
    exact FieldItem.isMarker_of_mem_kept hf
  case renames =>
    intro f hf
    obtain ⟨hf, hrole⟩ := List.mem_filter.1 hf
    obtain ⟨g, hg, hof⟩ := exists_ofItem? (t := c.markers) hf
    refine renameEntries_grouped fun a hmem => ha.attributes g hg ?_ a ?_
    · exact Option.isSome_iff_exists.1 (by rwa [Field.role?_ofItem? hof])
    · rwa [Field.attributes_ofItem? hof]

/-! ### A struct with attributes of all kinds -/

/-- An attribute that is a single word. -/
def wordAttribute (name : String) : Attribute := ⟨false, ⟨.ofNames false [name], .none, .callSite⟩⟩

/-- A struct with documentation, markers and other attributes on its fields. -/
def mixedItem : StructItem where
  attributes := [attributeOf "derive" (Phrase.word "Debug").trees]
  visibility := []
  name := .plain "Fetch"
  parameters := []
  clause := none
  fields := .named ⟨[
    ⟨[wordAttribute "doc", attributeOf "header" [quoted "X-Id"],
      attributeOf "serde" (Phrase.word "default").trees], [], some (.plain "id"),
      Phrase.word "u64"⟩,
    ⟨[wordAttribute "doc"], [], some (.plain "note"), Phrase.word "bool"⟩,
    ⟨[wordAttribute "body"], [], some ⟨true, "type", .callSite⟩, Phrase.word "u8"⟩], true⟩

theorem isSome_expand_mixedItem : (Config.expand {} (.struct mixedItem)).toOption.isSome := by
  decide +kernel

theorem conserves_mixedItem : ∃ (tokens : List TokenTree) (e : Expansion),
    Config.expand {} (.struct mixedItem) = .ok tokens ∧ (e.emit {}).trees = tokens ∧
      e.Conserves {} mixedItem := by
  cases h : Config.expand {} (.struct mixedItem) with
  | error f => exact absurd isSome_expand_mixedItem (by simp [h, Except.toOption])
  | ok tokens =>
    obtain ⟨e, -, htokens, he⟩ := conserves_expand h
    exact ⟨tokens, e, rfl, htokens, he⟩

end RequestGroups
