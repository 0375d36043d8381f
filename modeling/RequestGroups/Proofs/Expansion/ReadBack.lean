import RequestGroups.Proofs.Declaration.Placeless
import RequestGroups.Proofs.Expansion.TypeNames
import RequestGroups.Proofs.Grammar.StructNames

/-! # Emitted structs are read back

Each struct of an expansion is written with separators behind all of its fields, with lists of
attributes in front of them, and with braces even if it is empty. Reading its tokens again gives the
same struct, if the types, visibilities and attributes in it are read back and its names may stand
in source text.

* `Item.Legible` says that the pieces of an item are read back;
* `Expansion.ReadsBack` says what each of the structs is read as: the declared struct is the one of
  the declaration in which storage fields stand for the fields of both groups, and a record has the
  fields of its group with their keys;
* `read_record`, `read_struct`: these structs are read; `rewrittenFrom` and
  `GroupRecord.readBackAs` say what they are then;
* `RewrittenFrom.expand_eq_error`: the declared struct is not expanded a second time;
* `readsBack_expand`: everything together. A record may have a name that no struct can have, if the
  name of its storage field has no letters (`not_readsBack_keywordItem`), but not under arguments
  (`readsBack_ofArguments`). -/

namespace RequestGroups

open Source Grammar

variable {c : Config} {t : MarkerTable} {s : StructItem} {e : Expansion}

/-! ### Items whose pieces are read back -/

/-- A struct whose pieces are read back, apart from the markers of its fields. -/
structure Grammar.StructItem.Legible (t : MarkerTable) (s : StructItem) : Prop where
  name : Look.isName s.name
  visibility : visibilityOf s.visibility.trees = .ok s.visibility
  attributes : ∀ a ∈ s.attributes, a.ReadsBack
  fields : ∀ f ∈ s.namedFields, FieldItem.Legible { f with attributes := f.kept t }

/-- An item whose pieces are read back; only of structs anything is asked. -/
def Grammar.Item.Legible (t : MarkerTable) : Item → Prop
  | .struct s => s.Legible t
  | .other .. => True

theorem visibilityOf_nil : visibilityOf (Phrase.trees []) = .ok [] := rfl

/-! ### The emitted structs -/

theorem readsBack_attributeOf {name : String} (h : Look.isName (.plain name))
    (tokens : List TokenTree) : (attributeOf name tokens).ReadsBack :=
  Attribute.readsBack_list h .paren .callSite .callSite .callSite tokens

theorem readsBack_attributes_code (g : GroupRecord) (d : Declaration) :
    ∀ a ∈ (g.code c d).attributes, a.ReadsBack := by
  intro a ha
  rcases List.mem_cons.1 ha with rfl | ha
  · exact readsBack_attributeOf (by decide) _
  · rw [List.mem_singleton.1 ha]
    exact readsBack_attributeOf (by decide) _

theorem legible_storageField {r : Role} (hn : Look.namesField (e.storage.fieldOf r))
    (hr : Look.isName (e.record r).name) : (e.storageField r).Legible where
  name := hn
  visibility := visibilityOf_nil
  type := FieldItem.typeReadsBack_name hr
  attributes := List.forall_mem_nil _

/-- A field of a group record has the attributes of its field that are no documentation. -/
theorem legible_grouped {f : FieldItem}
    (h : FieldItem.Legible { f with attributes := f.kept t }) : (f.grouped t).Legible where
  name := h.name
  visibility := visibilityOf_nil
  type := h.type
  attributes a ha := by
    rcases List.mem_append.1 ha with ha | ha
    · exact h.attributes a (List.mem_filter.1 ha).1
    · rw [List.mem_singleton.1 ha]
      exact readsBack_attributeOf (by decide) _

/-- Plain fields have no markers. -/
theorem legible_plain {f : FieldItem} (h : FieldItem.Legible { f with attributes := f.kept t })
    (hf : f.role? t = none) : f.Legible := by
  rwa [FieldItem.kept_of_role?_eq_none hf] at h

/-! ### What is read back -/

/-- What the declared struct says when it is read back: it is the struct of the declaration, in
which a private field for each group stands in front of the plain fields. -/
structure Declaration.RewrittenFrom (d : Declaration) (e : Expansion) (c : Config) : Prop where
  name : d.name = e.declaration.name
  visibility : d.visibility = e.declaration.visibility
  attributes : d.attributes.map Attribute.placeless =
    e.declaration.attributes.map Attribute.placeless
  derives : d.derives = e.declaration.derives
  kind : d.kind = .struct
  markers : ∀ f ∈ d.fields, f.markers = []
  fields : d.fields.map Field.placeless =
    Role.all.map (fun r => ⟨c.storage r, Phrase.ident (e.record r).name, [], [], []⟩) ++
      (e.declaration.plainFields c).map Field.placeless

/-- What a field of the record of a group is read back as: a private field with the attributes of
the source field, and behind them one more that lists nothing but the key. -/
structure GroupField.ReadBackAs (f : GroupField) (g : FieldItem) : Prop where
  name : g.name = some f.name
  type : g.type = f.type
  visibility : g.visibility = []
  attributes : ∃ as key, g.attributes = as ++ [key] ∧
    as.map Attribute.placeless = f.attributes.map Attribute.placeless ∧ key.path.isName "serde" ∧
      ∃ x, key.entries? = some [x] ∧ x.isRename ∧ x.stringValue? = some f.key

/-- What the record of a group is read back as: a private struct in braces. -/
structure GroupRecord.ReadBackAs (g : GroupRecord) (q : StructItem) : Prop where
  name : q.name = g.name
  visibility : q.visibility = []
  plain : q.isGeneric = false
  fields : ∃ fs, q.fields = .named fs ∧ List.Forall₂ GroupField.ReadBackAs g.fields fs.fields

/-- **The structs of an expansion are read back** as they are meant, and expanding the declared
struct again is refused for the name of its first field. -/
structure Expansion.ReadsBack (e : Expansion) (c : Config) : Prop where
  struct : ∃ q d, Item.read e.emitStruct.trees = .ok (.struct q) ∧
    Declaration.ofItem c.markers (.struct q) = .ok d ∧ d.RewrittenFrom e c
  records : ∀ r, ∃ q, Item.read ((e.record r).emit e.declaration c).trees = .ok (.struct q) ∧
    (e.record r).ReadBackAs q
  again : ∀ i, Item.read e.emitStruct.trees = .ok i →
    ∃ x, c.expand i = .error (.diagnostic x) ∧ x.problem.id = "reserved-field-name"

theorem Config.expand_eq_error {i : Item} {d : Declaration} {x : Diagnostic}
    (hi : Declaration.ofItem c.markers i = .ok d) (hd : d.expand c = .error x) :
    c.expand i = .error (.diagnostic x) := by
  rw [expand, expansionOf, hi]
  change (do return (← ((Declaration.expand _ c).mapError Failure.diagnostic)).emit c |>.trees) = _
  rw [hd]
  rfl

/-! ### Records -/

theorem readBackAs_of_placeless {f : GroupField} {g : FieldItem}
    (h : g.placeless = (GroupRecord.fieldCode f).placeless) : f.ReadBackAs g := by
  have attributes : g.attributes.map Attribute.placeless =
      (f.attributes ++ [GroupRecord.keyAttribute f.key]).map Attribute.placeless :=
    congrArg FieldItem.attributes h
  rw [List.map_append] at attributes
  obtain ⟨as, bs, happend, has, hbs⟩ := List.map_eq_append_iff.1 attributes
  obtain ⟨key, rfl, hkey⟩ := List.map_eq_singleton_iff.1 hbs
  have name : Look.isName (.plain "rename") := by decide
  obtain ⟨x, hx, hp, hv⟩ := entries?_attributeOf name "serde" f.key
  have path : key.placeless.path = (GroupRecord.keyAttribute f.key).placeless.path :=
    congrArg Attribute.path hkey
  have entries : key.entries? = some [x] := by
    rw [← entries?_placeless, hkey, entries?_placeless]
    exact hx
  have rename : x.isRename := by
    rw [Entry.isRename, hp]
    decide
  have serde : key.path.isName "serde" := by
    change key.placeless.path.isName "serde" = true
    rw [path]
    exact (by decide : (Path.ofNames false ["serde"]).isName "serde" = true)
  exact ⟨congrArg FieldItem.name h, congrArg FieldItem.type h, congrArg FieldItem.visibility h,
    as, key, happend, has, serde, x, entries, rename, hv⟩

theorem GroupRecord.readBackAs {g : GroupRecord} {as : List Attribute} {gs : List FieldItem}
    (h : gs.map FieldItem.placeless = (g.fields.map fieldCode).map FieldItem.placeless) :
    g.ReadBackAs (.braced as [] g.name gs) := by
  have fields := forall₂_iff_map_eq.2 h
  rw [List.forall₂_map_left_iff] at fields
  exact ⟨rfl, rfl, rfl, _, rfl, fields.imp fun _ _ => readBackAs_of_placeless⟩

namespace Declaration

variable {derives : List Path}

/-- **The record of a group** is read back. -/
theorem read_record (hs : s.Legible c.markers) (r : Role)
    (hn : Look.isName ((structExpansion s derives c).record r).name) (d : Declaration) :
    ∃ q, Item.read (((structExpansion s derives c).record r).emit d c).trees = .ok (.struct q) ∧
      ((structExpansion s derives c).record r).ReadBackAs q := by
  have items : ((structExpansion s derives c).record r).fields.map GroupRecord.fieldCode =
      (s.membersOf c.markers r).map (FieldItem.grouped c.markers) := items_code r d
  have fields : ∀ f ∈ ((structExpansion s derives c).record r).fields.map GroupRecord.fieldCode,
      f.Legible := by
    intro f hf
    rw [items] at hf
    obtain ⟨x, hx, rfl⟩ := List.mem_map.1 hf
    exact legible_grouped (hs.fields x (List.mem_filter.1 hx).1)
  have attributes := readsBack_attributes_code (c := c) ((structExpansion s derives c).record r) d
  obtain ⟨bs, gs, read, -, same⟩ := Item.read_braced attributes visibilityOf_nil hn fields
  rw [GroupRecord.emit, code_eq]
  exact ⟨_, read, GroupRecord.readBackAs same⟩

/-! ### The declared struct -/

/-- **The declared struct** is read back. -/
theorem read_struct (hs : s.Legible c.markers) (hc : ∀ r, Look.namesField (c.storage r))
    (hn : ∀ r, Look.isName ((structExpansion s derives c).record r).name) :
    ∃ (bs : List Attribute) (gs : List FieldItem),
      Item.read (structExpansion s derives c).emitStruct.trees =
        .ok (.struct (.braced bs s.visibility s.name gs)) ∧
      bs.map Attribute.placeless = s.attributes.map Attribute.placeless ∧
      gs.map FieldItem.placeless = (Role.all.map (structExpansion s derives c).storageField ++
        s.plainItems c.markers).map FieldItem.placeless := by
  have plain : (structExpansion s derives c).plainFields.map Field.item = s.plainItems c.markers :=
    items_plain
  have fields : ∀ f ∈ Role.all.map (structExpansion s derives c).storageField ++
      s.plainItems c.markers, f.Legible := by
    intro f hf
    rcases List.mem_append.1 hf with hf | hf
    · obtain ⟨r, -, rfl⟩ := List.mem_map.1 hf
      refine legible_storageField ?_ (hn r)
      rw [fieldOf_expansion]
      exact hc r
    · obtain ⟨hf, role⟩ := List.mem_filter.1 hf
      exact legible_plain (hs.fields f hf) (of_decide_eq_true role)
  rw [Expansion.emitStruct, structCode_eq, plain]
  exact Item.read_braced hs.attributes hs.visibility hs.name fields

/-- The fields of a declaration have the names that the fields of its struct have. -/
theorem namesField_of_ofItem {d : Declaration} {f : Field} (hs : s.Named)
    (h : ofItem t (.struct s) = .ok d) (hf : f ∈ d.fields) : Look.namesField f.name := by
  obtain ⟨derives, -, rfl⟩ := ofItem_struct.1 h
  have named := hs.fields
  cases hfields : s.fields with
  | named l =>
    rw [hfields] at named
    rw [ofStruct, fieldsOf, hfields] at hf
    obtain ⟨x, hx, hf⟩ := List.mem_filterMap.1 hf
    exact named x hx f.name (Field.name_ofItem? hf).symm
  | tuple l =>
    rw [ofStruct, fieldsOf, hfields] at hf
    exact absurd hf List.not_mem_nil
  | unit =>
    rw [ofStruct, fieldsOf, hfields] at hf
    exact absurd hf List.not_mem_nil

/-- A plain field is the same field when it is read back. -/
theorem ofItem?_plain {f : Field} (hf : f ∈ (ofStruct c.markers s derives).plainFields c) :
    Field.ofItem? c.markers f.item = some f ∧ f.markers = [] := by
  obtain ⟨hmem, role⟩ := mem_plainOf.1 hf
  rw [ofStruct, fieldsOf_eq] at hmem
  obtain ⟨x, -, hx⟩ := List.mem_filterMap.1 hmem
  rw [Field.role?_ofItem? hx] at role
  have kept := FieldItem.kept_of_role?_eq_none role
  have item : f.item = x := by
    rw [Field.item, Field.attributes_ofItem? hx, kept, Field.name_ofItem? hx]
    obtain ⟨name, -, rfl⟩ := Option.map_eq_some_iff.1 hx
    rfl
  refine ⟨item ▸ hx, ?_⟩
  obtain ⟨name, -, rfl⟩ := Option.map_eq_some_iff.1 hx
  refine List.filterMap_eq_nil_iff.2 fun a ha => ?_
  rw [← kept] at ha
  rw [MarkerTable.marker?, FieldItem.isMarker_of_mem_kept ha]
  rfl

/-- The fields of the declared struct: one for each group, and the plain fields. -/
theorem fieldsOf_structCode :
    (Role.all.map (structExpansion s derives c).storageField ++ s.plainItems c.markers).filterMap
        (Field.ofItem? c.markers) =
      Role.all.map (fun r => ⟨c.storage r,
        Phrase.ident ((structExpansion s derives c).record r).name, [], [], []⟩) ++
        (ofStruct c.markers s derives).plainFields c := by
  have plain : (s.plainItems c.markers).filterMap (Field.ofItem? c.markers) =
      (ofStruct c.markers s derives).plainFields c := by
    have items : ((ofStruct c.markers s derives).plainFields c).map Field.item =
      s.plainItems c.markers := items_plain
    rw [← items, List.filterMap_map]
    exact (List.filterMap_congr fun f hf => (ofItem?_plain hf).1).trans List.filterMap_some
  rw [List.filterMap_append, plain]
  rfl

theorem rewrittenFrom {gs : List FieldItem} {bs : List Attribute}
    (hbs : bs.map Attribute.placeless = s.attributes.map Attribute.placeless)
    (hgs : gs.map FieldItem.placeless = (Role.all.map (structExpansion s derives c).storageField ++
      s.plainItems c.markers).map FieldItem.placeless) :
    RewrittenFrom ⟨s.name, s.visibility, .struct, bs, derives,
      gs.filterMap (Field.ofItem? c.markers)⟩ (structExpansion s derives c) c := by
  have fields := fieldsOf_placeless (t := c.markers) hgs
  rw [fieldsOf_structCode] at fields
  refine ⟨rfl, rfl, hbs, rfl, rfl, fun f hf => ?_, ?_⟩
  · have mem : f.placeless ∈ (gs.filterMap (Field.ofItem? c.markers)).map Field.placeless :=
      List.mem_map_of_mem hf
    rw [fields] at mem
    obtain ⟨g, hg, same⟩ := List.mem_map.1 mem
    have markers : f.markers = g.markers := (congrArg Field.markers same).symm
    rw [markers]
    rcases List.mem_append.1 hg with hg | hg
    · obtain ⟨r, -, rfl⟩ := List.mem_map.1 hg
      rfl
    · exact (ofItem?_plain hg).2
  · rw [fields, List.map_append, List.map_map]
    rfl

theorem expand_storageField {d : Declaration} {f : Field} {fs : List Field} (r : Role)
    (hf : f.name = c.storage r) (hd : d.fields = f :: fs) (kind : d.kind = .struct)
    (names : (d.fields.map (·.name.name)).Nodup) (markers : ∀ f ∈ d.fields, f.markers = []) :
    d.expand c = .error ⟨.reservedField f.name.spelling .storageField, f.name.span⟩ := by
  have alone : d.violation? = none := violation?_eq_none.2 ⟨kind, names⟩
  have split : d.partition c.markers = .ok (.split c.markers d.fields) := by
    refine Partition.ofFields_eq_ok.2 ⟨fun f hf => ?_, rfl⟩
    rw [Field.registered, markers f hf]
    exact Nat.zero_le 1
  have clash : storageClash? c f =
      some ⟨.reservedField f.name.spelling .storageField, f.name.span⟩ := by
    refine if_pos (List.any_eq_true.2 ⟨r, Role.mem_all r, ?_⟩)
    rw [hf]
    exact beq_self_eq_true _
  have first : (Partition.split c.markers d.fields).violation? d c =
      some ⟨.reservedField f.name.spelling .storageField, f.name.span⟩ := by
    rw [Partition.violation?, hd, List.findSome?_cons, clash]
    rfl
  rw [expand, alone, split]
  change (do refuse (Partition.violation? _ d c); return _) = _
  rw [first]
  rfl

namespace RewrittenFrom

variable {d : Declaration}

theorem names (h : d.RewrittenFrom e c) : d.fields.map (·.name) =
    Role.all.map c.storage ++ (e.declaration.plainFields c).map (·.name) := by
  have names := congrArg (List.map (·.name)) h.fields
  rw [List.map_append, List.map_map, List.map_map, List.map_map] at names
  exact names

/-- **What is read back is not expanded again.** -/
theorem expand_eq_error {renames : Entry → Prop} (h : d.RewrittenFrom e c)
    (ha : e.declaration.Acceptable renames c) (apart : c.headersStorage.name ≠ c.bodyStorage.name) :
    ∃ x, d.expand c = .error x ∧ x.problem.id = "reserved-field-name" := by
  obtain ⟨f, fs, hd, hf, -⟩ := List.map_eq_cons_iff.1 h.names
  have nodup := nodup_fieldNames ha apart
  rw [← h.names, List.map_map] at nodup
  exact ⟨_, expand_storageField .header hf hd h.kind nodup h.markers, rfl⟩

end RewrittenFrom

/-- **The structs of an expansion** are read back if the names of its storage fields and records may
stand in source text. -/
theorem readsBack_expansion (ha : (ofStruct c.markers s derives).Acceptable (Entry.isRename ·) c)
    (hd : Derives.ofAttributes s.attributes = .ok derives) (hs : s.Legible c.markers)
    (hc : ∀ r, Look.namesField (c.storage r)) (apart : c.headersStorage.name ≠ c.bodyStorage.name)
    (hn : ∀ r, Look.isName ((structExpansion s derives c).record r).name) :
    (structExpansion s derives c).ReadsBack c := by
  obtain ⟨bs, gs, read, sameAttributes, sameFields⟩ := read_struct hs hc hn
  have hbs := Derives.ofAttributes_placeless (forall₂_iff_map_eq.2 sameAttributes) hd
  have declared : ofItem c.markers (.struct (.braced bs s.visibility s.name gs)) = .ok _ :=
    ofItem_struct.2 ⟨derives, hbs, rfl⟩
  have rewritten : RewrittenFrom _ (structExpansion s derives c) c :=
    rewrittenFrom sameAttributes sameFields
  refine ⟨⟨_, _, read, declared, rewritten⟩, fun r => read_record hs r (hn r) _, ?_⟩
  intro i hi
  obtain rfl := Except.ok.inj (read.symm.trans hi)
  obtain ⟨x, hx, id⟩ := rewritten.expand_eq_error ha apart
  exact ⟨x, Config.expand_eq_error declared hx, id⟩

end Declaration

/-- What is read back has names that may stand in source text. -/
theorem Expansion.ReadsBack.names (h : e.ReadsBack c) :
    (∀ r, Look.namesField (c.storage r)) ∧ ∀ r, Look.isName (e.record r).name := by
  constructor
  · intro r
    obtain ⟨q, d, hq, hd, rewritten⟩ := h.struct
    have mem : c.storage r ∈ d.fields.map (·.name) := by
      rw [rewritten.names]
      exact List.mem_append_left _ (List.mem_map_of_mem (Role.mem_all r))
    obtain ⟨f, hf, name⟩ := List.mem_map.1 mem
    rw [← name]
    exact Declaration.namesField_of_ofItem (Item.named_of_read hq) hd hf
  · intro r
    obtain ⟨q, hq, same⟩ := h.records r
    rw [← same.name]
    exact (Item.named_of_read hq).name

theorem ofItem_of_expansionOf {i : Item} (h : expansionOf c i = .ok e) :
    Declaration.ofItem c.markers i = .ok e.declaration := by
  obtain ⟨d, hd, he⟩ := Outcome.bind_eq_ok.1 h
  obtain ⟨-, rfl⟩ := Declaration.expand_eq_expansion (Outcome.mapError_eq_ok.1 he)
  exact Outcome.mapError_eq_ok.1 hd

theorem exists_struct_of_expansionOf {i : Item} (h : expansionOf c i = .ok e) :
    ∃ s, i = .struct s := by
  obtain ⟨d, hd, he⟩ := Outcome.bind_eq_ok.1 h
  obtain ⟨ha, -⟩ := Declaration.expand_eq_expansion (Outcome.mapError_eq_ok.1 he)
  have kind := ha.kind
  cases i with
  | struct s => exact ⟨s, rfl⟩
  | other k name visibility phrase =>
    cases Outcome.mapError_eq_ok.1 hd
    cases k <;> exact absurd kind nofun

/-- **The structs of an expansion are read back** exactly if the storage fields and the records have
names that may stand in source text. -/
theorem readsBack_expand {i : Item} {tokens : List TokenTree} (legible : i.Legible c.markers)
    (apart : c.headersStorage.name ≠ c.bodyStorage.name) (h : c.expand i = .ok tokens) :
    ∃ e, expansionOf c i = .ok e ∧ Declaration.ofItem c.markers i = .ok e.declaration ∧
      tokens = (Role.all.flatMap fun r => ((e.record r).emit e.declaration c).trees) ++
        e.emitStruct.trees ++ (e.emitMethods c).trees ++ (e.emitTrait c).trees ∧
      (e.ReadsBack c ↔
        (∀ r, Look.namesField (c.storage r)) ∧ ∀ r, Look.isName (e.record r).name) := by
  obtain ⟨e, he, rfl⟩ := Config.expand_eq_ok.1 h
  refine ⟨e, he, ofItem_of_expansionOf he, ?_, fun reads => reads.names, ?_⟩
  · simp [Expansion.emit, Phrase.trees_append, Role.all, Expansion.record]
  · rintro ⟨storage, names⟩
    obtain ⟨s, rfl⟩ := exists_struct_of_expansionOf he
    obtain ⟨derives, hd, hs⟩ := expansionOf_struct he
    obtain ⟨ha, rfl⟩ := Declaration.expand_eq_expansion hs
    exact Declaration.readsBack_expansion ha hd legible storage apart names

/-! ### A struct with attributes of all kinds -/

theorem readsBack_wordAttribute {name : String} (h : Look.isName (.plain name)) :
    (wordAttribute name).ReadsBack :=
  Attribute.readsBack_name h .callSite

/-- A field whose type is a name is legible if its attributes are read back, markers or not. -/
theorem legible_nameType {as : List Attribute} {name n : Ident} (hname : Look.isName name)
    (hn : Look.isName n) (h : ∀ a ∈ as, a.ReadsBack) : FieldItem.Legible
      ⟨FieldItem.kept t ⟨as, [], some name, Phrase.ident n⟩, [], some name, Phrase.ident n⟩ where
  name := Bool.or_eq_true_iff.2 (Or.inl hname)
  visibility := visibilityOf_nil
  type := FieldItem.typeReadsBack_name hn
  attributes a ha := h a (List.mem_filter.1 ha).1

theorem legible_mixedItem : mixedItem.Legible .default where
  name := by decide
  visibility := visibilityOf_nil
  attributes := List.forall_mem_singleton.2 (readsBack_attributeOf (by decide) _)
  fields := by
    have doc : (wordAttribute "doc").ReadsBack := readsBack_wordAttribute (by decide)
    have header : (attributeOf "header" [quoted "X-Id"]).ReadsBack :=
      readsBack_attributeOf (by decide) _
    have serde : (attributeOf "serde" (Phrase.word "default").trees).ReadsBack :=
      readsBack_attributeOf (by decide) _
    have body : (wordAttribute "body").ReadsBack := readsBack_wordAttribute (by decide)
    intro f hf
    obtain ⟨hf, -⟩ := List.mem_filter.1 hf
    simp only [StructItem.items, mixedItem, List.mem_cons, List.not_mem_nil, or_false] at hf
    rcases hf with rfl | rfl | rfl
    · exact legible_nameType (by decide) (by decide) (by simp [doc, header, serde])
    · exact legible_nameType (by decide) (by decide) (by simp [doc])
    · exact legible_nameType (by decide) (by decide) (by simp [body])

theorem isName_record_mixedItem : (expansionOf {} (.struct mixedItem)).toOption.all
    fun e => Role.all.all fun r => Look.isName (e.record r).name := by
  decide +kernel

theorem readsBack_mixedItem : ∃ tokens e, Config.expand {} (.struct mixedItem) = .ok tokens ∧
    expansionOf {} (.struct mixedItem) = .ok e ∧ e.ReadsBack {} := by
  obtain ⟨tokens, h⟩ := Option.isSome_iff_exists.1 isSome_expand_mixedItem
  have h := Outcome.toOption_eq_some.1 h
  obtain ⟨e, he, -, -, reads⟩ :=
    readsBack_expand (c := {}) (i := .struct mixedItem) legible_mixedItem (by decide) h
  have names := isName_record_mixedItem
  rw [he] at names
  exact ⟨tokens, e, h, he, reads.2 ⟨fun r => by cases r <;> decide,
    fun r => List.all_eq_true.1 names r (Role.mem_all r)⟩⟩

/-! ### A record that is named by a keyword -/

/-- The struct `r#type` without fields. -/
def keywordItem : StructItem := .braced [] [] ⟨true, "type", .callSite⟩ []

/-- A configuration that stores the headers in a field without letters. -/
def bareStorage : Config := { headersStorage := .plain "__" }

theorem unread_keywordItem : (expansionOf bareStorage (.struct keywordItem)).toOption.any fun e =>
    (Item.read ((e.record .header).emit e.declaration bareStorage).trees).toOption.isNone := by
  decide +kernel

/-- **The record of headers** has the name of the struct without its mark, which is a keyword, and
so it is not read. -/
theorem not_readsBack_keywordItem : keywordItem.Legible bareStorage.markers ∧
    (∀ r, Look.isName (bareStorage.storage r)) ∧
    bareStorage.headersStorage.name ≠ bareStorage.bodyStorage.name ∧
    ∃ e, expansionOf bareStorage (.struct keywordItem) = .ok e ∧
      (∀ i, Item.read ((e.record .header).emit e.declaration bareStorage).trees ≠ .ok i) ∧
      ¬ e.ReadsBack bareStorage := by
  obtain ⟨e, he, unread⟩ := (Option.any_eq_true _ _).1 unread_keywordItem
  have refused : ∀ i,
      Item.read ((e.record .header).emit e.declaration bareStorage).trees ≠ .ok i := by
    intro i hi
    rw [hi] at unread
    exact absurd unread nofun
  refine ⟨⟨by decide, visibilityOf_nil, nofun, nofun⟩, fun r => by cases r <;> decide, by decide, e,
    Outcome.toOption_eq_some.1 he, refused, fun reads => ?_⟩
  obtain ⟨q, hq, -⟩ := reads.records .header
  exact refused _ hq

/-! ### Configurations from arguments -/

/-- The name of a record is an identifier whatever the arguments are. -/
theorem Config.isName_groupName {ts : List TokenTree} (h : ofArguments ts = .ok c)
    (declared : Ident) (r : Role) : Look.isName (c.groupName declared r) := by
  rcases hr : c.givenName? r with _ | name
  · -- no keyword ends like a name that is not given
    have apart : ∀ word ∈ Look.keywords, ¬ (groupSuffix r).toList <:+ word.toList := by
      cases r <;> decide
    have plain : (c.groupName declared r).name ∉ Look.keywords := by
      rw [name_groupName h hr]
      intro hmem
      refine apart _ hmem ?_
      rw [String.toList_append]
      exact List.suffix_append _ _
    simpa [Look.isName] using Or.inr plain
  · rw [groupName_of_given declared hr]
    exact (names_ofArguments h).givenName? hr

/-- **For arguments, all structs** of an expansion are read back. -/
theorem readsBack_ofArguments {ts : List TokenTree} {i : Item} (hc : Config.ofArguments ts = .ok c)
    (legible : i.Legible c.markers) (he : expansionOf c i = .ok e) : e.ReadsBack c := by
  obtain ⟨s, rfl⟩ := exists_struct_of_expansionOf he
  obtain ⟨derives, hd, hs⟩ := expansionOf_struct he
  obtain ⟨ha, rfl⟩ := Declaration.expand_eq_expansion hs
  have storage : ∀ r, Look.namesField (c.storage r) := by
    obtain ⟨settings, -, rfl⟩ := Config.ofArguments_eq_ok.1 hc
    intro r
    rw [(Config.fixed_foldl settings {}).2 r]
    cases r <;> decide
  refine Declaration.readsBack_expansion ha hd legible storage (Config.storage_ofArguments hc)
    fun r => ?_
  rw [Declaration.record_expansion]
  exact Config.isName_groupName hc _ r

end RequestGroups
