import RequestGroups.Proofs.Expansion.Attributes
import RequestGroups.Proofs.Expansion.Failure
import RequestGroups.Proofs.Grammar.StructForm

/-! # Markers and other attributes

The attributes of a field are told apart twice: where a declaration is read, they become markers or
are kept, and where an item is given back, the markers are removed from it. Both ways keep the same
attributes, unless there are fields inside of types or attributes, which only the second way looks
for.

* `Field.SplitOf` says what becomes of one field, and `forall₂_splitOf` shows it of all of them;
* `FieldItem.strip_eq`: what is kept is what is left without the markers;
* `ofItem_strip`: an item without its markers is read as the declaration without its markers;
* `StructItem.SplitsAlike` collects these facts. -/

namespace RequestGroups

open Source Grammar

variable {t : MarkerTable} {s : StructItem} {l : FieldList} {d : Declaration}

/-! ### Markers -/

/-- **A marker** is an attribute whose path is a single identifier that is registered. -/
theorem MarkerTable.isMarker_iff (t : MarkerTable) (a : Attribute) :
    t.isMarker a ↔ ∃ i r, a.path = .ofIdent i ∧ t.find? i.spelling = some r := by
  unfold isMarker roleOfAttribute
  rw [Option.isSome_iff_exists]
  simp only [Option.bind_eq_some_iff, Attribute.tag?, Path.ident?_eq_some, roleOf]
  exact ⟨fun ⟨r, i, h⟩ => ⟨i, r, h⟩, fun ⟨i, r, h⟩ => ⟨r, i, h⟩⟩

theorem MarkerTable.exists_ofAttribute? {a : Attribute} (h : t.isMarker a) :
    ∃ m, Marker.ofAttribute? a = some m := by
  obtain ⟨i, r, hi, -⟩ := (t.isMarker_iff a).1 h
  rw [Marker.ofAttribute?, Attribute.tag?, Path.ident?_eq_some.2 hi]
  exact ⟨_, rfl⟩

/-- Each attribute that is a marker is read as one. -/
theorem MarkerTable.forall₂_markers (t : MarkerTable) (as : List Attribute) :
    List.Forall₂ (fun a m => Marker.ofAttribute? a = some m) (as.filter t.isMarker)
      (as.filterMap t.marker?) := by
  have read : as.filterMap t.marker? = (as.filter t.isMarker).filterMap Marker.ofAttribute? :=
    List.filterMap_filter.symm
  rw [read]
  refine forall₂_filterMap fun a ha => ?_
  obtain ⟨m, hm⟩ := exists_ofAttribute? (List.mem_filter.1 ha).2
  exact ⟨m, hm, hm⟩

/-! ### One field -/

/-- **What becomes of a field** in the declaration: its attributes are split into markers and
others. -/
structure Field.SplitOf (t : MarkerTable) (f : FieldItem) (g : Field) : Prop where
  name : f.name = some g.name
  type : g.type = f.type
  visibility : g.visibility = f.visibility
  markers : List.Forall₂ (fun a m => Marker.ofAttribute? a = some m)
    (f.attributes.filter t.isMarker) g.markers
  attributes : g.attributes = f.attributes.filter fun a => !t.isMarker a
  once : (f.attributes.filter t.isMarker ++ g.attributes).Perm f.attributes

theorem Field.splitOf_ofItem? {f : FieldItem} {g : Field} (h : Field.ofItem? t f = some g) :
    Field.SplitOf t f g := by
  obtain ⟨name, hname, rfl⟩ := Option.map_eq_some_iff.1 h
  constructor
  case name => exact hname
  case type => rfl
  case visibility => rfl
  case markers => exact t.forall₂_markers f.attributes
  case attributes => rfl
  case once => exact List.filter_append_perm _ _

/-- **A field without its markers** has the attributes that are kept of it. -/
theorem Grammar.FieldItem.strip_eq {f : FieldItem} (regular : f.Regular) (flat : f.IsFlat) :
    f.strip t.isTag = { f with attributes := f.kept t } := by
  have kept : (f.attributes.filter fun a => !(a.tag?.map Ident.spelling).any t.isTag) =
      f.kept t := by
    simp only [← MarkerTable.isMarker_eq]
    rfl
  have flats : ∀ a ∈ f.kept t, a.isFlat := fun a ha => flat.attributes a (List.mem_filter.1 ha).1
  rw [strip, kept, Attribute.map_strip_of_isFlat flats, Phrase.strip_of_isFlat regular.visibility,
    Phrase.strip_of_isFlat flat.type]

/-- It is read as the field of the declaration without its markers. -/
theorem Field.ofItem?_strip {f : FieldItem} (regular : f.Regular) (flat : f.IsFlat) :
    Field.ofItem? t (f.strip t.isTag) = (Field.ofItem? t f).map Field.unmarked := by
  have others : ∀ a ∈ f.kept t, t.isMarker a = false := fun a => FieldItem.isMarker_of_mem_kept
  have markers : (f.kept t).filterMap t.marker? = [] := by
    refine List.filterMap_eq_nil_iff.2 fun a ha => ?_
    rw [MarkerTable.marker?, if_neg (by rw [others a ha]; exact Bool.false_ne_true)]
  have kept : (f.kept t).filter (fun a => !t.isMarker a) = f.kept t :=
    List.filter_eq_self.2 fun a ha => by rw [others a ha]; rfl
  obtain ⟨name, hname⟩ := Option.isSome_iff_exists.1 regular.name
  rw [FieldItem.strip_eq regular flat, ofItem?, ofItem?, hname]
  simp only [markers, kept, Option.map_some]
  rfl

/-! ### All fields -/

namespace Declaration

theorem fieldsOf_named (h : s.fields = .named l) :
    fieldsOf t s = l.fields.filterMap (Field.ofItem? t) := by
  rw [fieldsOf, h]

theorem forall₂_splitOf (regular : ∀ f ∈ l.fields, f.Regular) :
    List.Forall₂ (Field.SplitOf t) l.fields (l.fields.filterMap (Field.ofItem? t)) := by
  refine forall₂_filterMap fun f hf => ?_
  obtain ⟨name, hname⟩ := Option.isSome_iff_exists.1 (regular f hf).name
  have read : ∃ g, Field.ofItem? t f = some g := by
    rw [Field.ofItem?, hname]
    exact ⟨_, rfl⟩
  obtain ⟨g, hg⟩ := read
  exact ⟨g, hg, Field.splitOf_ofItem? hg⟩

/-! ### The item without its markers -/

theorem isGeneric_strip (regular : s.Regular) (chosen : String → Bool) :
    (s.strip chosen).isGeneric = s.isGeneric := by
  have clause : (s.strip chosen).clause.isSome = s.clause.isSome := Option.isSome_map
  have parameters : (s.strip chosen).parameters.isEmpty = s.parameters.isEmpty := by
    change (s.parameters.strip chosen).isEmpty = _
    rcases regular.parameters with h | ⟨rest, h⟩
    · rw [h]
      rfl
    · -- the bracket stays, whatever is removed behind it
      rw [h, Phrase.strip_append, Phrase.strip_sign]
      rfl
  rw [StructItem.isGeneric, StructItem.isGeneric, clause, parameters]

theorem fields_strip (hs : s.fields = .named l) (chosen : String → Bool) :
    (s.strip chosen).fields = .named (l.strip chosen) :=
  (congrArg (Fields.strip chosen) hs :)

theorem kindOf_strip (regular : s.Regular) (hs : s.fields = .named l) (chosen : String → Bool) :
    kindOf (s.strip chosen) = kindOf s := by
  rw [kindOf, kindOf, fields_strip hs, hs, isGeneric_strip regular]

theorem fieldsOf_strip (regular : s.Regular) (flat : s.IsFlat) (hs : s.fields = .named l) :
    fieldsOf t (s.strip t.isTag) = (fieldsOf t s).map Field.unmarked := by
  rw [fieldsOf_named (fields_strip hs t.isTag), fieldsOf_named hs, FieldList.strip,
    List.filterMap_map, List.map_filterMap]
  exact List.filterMap_congr fun f hf =>
    Field.ofItem?_strip (regular.fields l hs f hf) (flat.fields l hs f hf)

/-- **The item without its markers** is read as the declaration without its markers. -/
theorem ofItem_strip (regular : s.Regular) (flat : s.IsFlat) (hs : s.fields = .named l)
    (h : ofItem t (.struct s) = .ok d) : ofItem t (t.strip (.struct s)) = .ok d.unmarked := by
  obtain ⟨derives, hderives, rfl⟩ := ofItem_struct.1 h
  have attributes : (s.strip t.isTag).attributes = s.attributes :=
    Attribute.map_strip_of_isFlat flat.attributes t.isTag
  have visibility : (s.strip t.isTag).visibility = s.visibility :=
    Phrase.strip_of_isFlat regular.visibility t.isTag
  refine ofItem_struct.2 ⟨derives, by rw [attributes]; exact hderives, ?_⟩
  rw [ofStruct, ofStruct, visibility, attributes, kindOf_strip regular hs,
    fieldsOf_strip regular flat hs]
  rfl

end Declaration

/-! ### Both ways -/

/-- **How the attributes of the fields are told apart**, where the declaration is read and where the
markers are removed from the item. -/
structure Grammar.StructItem.SplitsAlike (s : StructItem) (l : FieldList) (t : MarkerTable)
    (d : Declaration) : Prop where
  marker : ∀ a, t.isMarker a ↔ ∃ i r, a.path = .ofIdent i ∧ t.find? i.spelling = some r
  fields : List.Forall₂ (Field.SplitOf t) l.fields d.fields
  kept : s.IsFlat →
    (l.strip t.isTag).fields.map (·.attributes) = d.fields.map (·.attributes)
  stripped : s.IsFlat → Declaration.ofItem t (t.strip (.struct s)) = .ok d.unmarked

/-- **Markers are told apart alike** on both ways, for every struct with fields in braces. A struct
that is read is regular (`Item.regular_of_read`). -/
theorem Grammar.StructItem.splitsAlike (regular : s.Regular) (hs : s.fields = .named l)
    (h : Declaration.ofItem t (.struct s) = .ok d) : s.SplitsAlike l t d := by
  have fields : d.fields = l.fields.filterMap (Field.ofItem? t) := by
    obtain ⟨derives, -, rfl⟩ := Declaration.ofItem_struct.1 h
    exact Declaration.fieldsOf_named hs
  have split : List.Forall₂ (Field.SplitOf t) l.fields d.fields := by
    rw [fields]
    exact Declaration.forall₂_splitOf (regular.fields l hs)
  constructor
  case marker => exact t.isMarker_iff
  case fields => exact split
  case kept =>
    intro flat
    have left : (l.strip t.isTag).fields.map (·.attributes) = l.fields.map (·.kept t) := by
      rw [FieldList.strip, List.map_map]
      refine List.map_congr_left fun f hf => ?_
      rw [Function.comp_apply,
        FieldItem.strip_eq (regular.fields l hs f hf) (flat.fields l hs f hf)]
    have right : d.fields.map (·.attributes) = l.fields.map (·.kept t) :=
      forall₂_iff_map_eq.1 (split.imp fun _ _ hfg => hfg.attributes)
    rw [left, right]
  case stripped => exact fun flat => Declaration.ofItem_strip regular flat hs h

theorem regular_mixedItem : mixedItem.Regular where
  visibility := rfl
  parameters := Or.inl rfl
  fields := by
    rintro _ ⟨⟩
    exact List.forall_mem_cons.2 ⟨⟨rfl, rfl⟩, List.forall_mem_cons.2
      ⟨⟨rfl, rfl⟩, List.forall_mem_singleton.2 ⟨rfl, rfl⟩⟩⟩

theorem isFlat_mixedItem : mixedItem.IsFlat where
  attributes := by decide
  fields := by
    rintro _ ⟨⟩
    exact List.forall_mem_cons.2 ⟨⟨by decide, rfl⟩, List.forall_mem_cons.2
      ⟨⟨by decide, rfl⟩, List.forall_mem_singleton.2 ⟨by decide, rfl⟩⟩⟩

theorem isSome_ofItem_mixedItem :
    (Declaration.ofItem .default (.struct mixedItem)).toOption.isSome := by
  decide +kernel

theorem splitsAlike_mixedItem : mixedItem.Regular ∧ mixedItem.IsFlat ∧
    ∃ l d, mixedItem.fields = .named l ∧
      Declaration.ofItem .default (.struct mixedItem) = .ok d ∧ mixedItem.SplitsAlike l .default d ∧
      Declaration.ofItem .default (MarkerTable.default.strip (.struct mixedItem)) =
        .ok d.unmarked := by
  obtain ⟨d, hd⟩ := Option.isSome_iff_exists.1 isSome_ofItem_mixedItem
  have read := Outcome.toOption_eq_some.1 hd
  have split := StructItem.splitsAlike regular_mixedItem rfl read
  exact ⟨regular_mixedItem, isFlat_mixedItem, _, d, rfl, read, split,
    split.stripped isFlat_mixedItem⟩

end RequestGroups
