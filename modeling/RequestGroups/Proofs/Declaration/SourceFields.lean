import RequestGroups.Declaration.Reading
import RequestGroups.Proofs.Instance.Routing

/-! # Fields as they are written

What the attributes of a field in a struct say before it becomes the field of a declaration: the
first marker among them gives the role and the key, and the attributes that are no markers are kept.

* `StructItem.namedFields` lists the fields of a struct;
* `FieldItem.kept`, `FieldItem.role?` and `FieldItem.keyIn` are what the attributes of one say;
* `map_filter_fieldsOf`: what is computed from fields of the declaration is computed from the fields
  of the struct. -/

namespace RequestGroups

open Source Grammar

variable {t : MarkerTable}

/-- An attribute as a registered marker with its role. -/
def MarkerTable.registered? (t : MarkerTable) (a : Attribute) : Option (Marker × Role) :=
  (t.marker? a).bind fun m => (t.roleOf m.tag).map (m, ·)

theorem MarkerTable.map_snd_registered? (a : Attribute) :
    (t.registered? a).map (·.2) = t.roleOfAttribute a := by
  unfold registered? marker? isMarker roleOfAttribute Marker.ofAttribute?
  rcases a.tag? with _ | tag
  · rfl
  · rcases h : t.roleOf tag <;> simp [h]

theorem MarkerTable.map_fst_registered? (a : Attribute) :
    (t.registered? a).map (·.1) = t.marker? a := by
  unfold registered? marker? isMarker roleOfAttribute Marker.ofAttribute?
  rcases a.tag? with _ | tag
  · rfl
  · rcases h : t.roleOf tag <;> simp [h]

/-! ### One field -/

namespace Grammar.FieldItem

/-- The attributes of a field that are no markers. -/
def kept (t : MarkerTable) (f : FieldItem) : List Attribute :=
  f.attributes.filter fun a => !t.isMarker a

/-- The documentation of a field. -/
def docs (t : MarkerTable) (f : FieldItem) : List Attribute := (f.kept t).filter Attribute.isDoc

/-- The attributes of a field that are neither markers nor documentation. -/
def others (t : MarkerTable) (f : FieldItem) : List Attribute :=
  (f.kept t).filter fun a => !a.isDoc

/-- The role that the first marker of a field gives it. -/
def role? (t : MarkerTable) (f : FieldItem) : Option Role :=
  f.attributes.findSome? t.roleOfAttribute

/-- The key of a field in its group: the key that its first marker gives, or its name. -/
def keyIn (t : MarkerTable) (f : FieldItem) : String :=
  ((f.attributes.findSome? t.marker?).bind (·.argument.key?)).getD (f.name.elim "" (·.name))

theorem isMarker_of_mem_kept {f : FieldItem} {a : Attribute} (h : a ∈ f.kept t) :
    t.isMarker a = false := by
  simpa using (List.mem_filter.1 h).2

/-- A field without a role has no marker, so all of its attributes are kept. -/
theorem kept_of_role?_eq_none {f : FieldItem} (h : f.role? t = none) : f.kept t = f.attributes := by
  refine List.filter_eq_self.2 fun a ha => ?_
  rw [MarkerTable.isMarker, List.findSome?_eq_none_iff.1 h a ha]
  rfl

end Grammar.FieldItem

namespace Field

variable {f : FieldItem} {g : Field}

theorem registered_ofItem? (h : ofItem? t f = some g) :
    g.registered t = f.attributes.filterMap t.registered? := by
  obtain ⟨name, -, rfl⟩ := Option.map_eq_some_iff.1 h
  exact List.filterMap_filterMap

theorem role?_ofItem? (h : ofItem? t f = some g) : g.role? t = f.role? t := by
  rw [role?, registered_ofItem? h, List.head?_filterMap, List.map_findSome?]
  exact congrArg (f.attributes.findSome? ·) (funext MarkerTable.map_snd_registered?)

theorem keyIn_ofItem? (h : ofItem? t f = some g) : g.keyIn t = f.keyIn t := by
  have marker : (f.attributes.findSome? t.registered?).map (·.1) =
      f.attributes.findSome? t.marker? := by
    rw [List.map_findSome?]
    exact congrArg (f.attributes.findSome? ·) (funext MarkerTable.map_fst_registered?)
  rw [keyIn, explicitKey?, registered_ofItem? h, List.head?_filterMap, FieldItem.keyIn, ← marker,
    Option.bind_map]
  obtain ⟨name, hn, rfl⟩ := Option.map_eq_some_iff.1 h
  rw [hn]
  rfl

theorem attributes_ofItem? (h : ofItem? t f = some g) : g.attributes = f.kept t := by
  obtain ⟨name, -, rfl⟩ := Option.map_eq_some_iff.1 h
  rfl

theorem name_ofItem? (h : ofItem? t f = some g) : some g.name = f.name := by
  obtain ⟨name, hn, rfl⟩ := Option.map_eq_some_iff.1 h
  exact hn.symm

end Field

/-! ### Fields without markers -/

/-- The field without its markers. -/
def Field.unmarked (f : Field) : Field := { f with markers := [] }

/-- The declaration without the markers on its fields. -/
def Declaration.unmarked (d : Declaration) : Declaration :=
  { d with fields := d.fields.map Field.unmarked }

/-! ### All fields -/

/-- The fields of a struct that have a name, which all fields in braces have. -/
def Grammar.StructItem.namedFields (s : StructItem) : List FieldItem :=
  s.items.filter (·.name.isSome)

theorem fieldsOf_eq (s : StructItem) :
    Declaration.fieldsOf t s = s.items.filterMap (Field.ofItem? t) := by
  unfold Declaration.fieldsOf StructItem.items
  rcases s.fields with l | l | _ <;> rfl

/-- The declaration of a struct whose derives can be read. -/
theorem Declaration.ofItem_struct {s : StructItem} {d : Declaration} :
    ofItem t (.struct s) = .ok d ↔
      ∃ derives, Derives.ofAttributes s.attributes = .ok derives ∧ d = ofStruct t s derives := by
  unfold ofItem survey
  dsimp only
  cases Derives.ofAttributes s.attributes with
  | error fault => simp
  | ok derives => simp [eq_comm]

/-- Each named field is a field of the declaration. -/
theorem exists_ofItem? {s : StructItem} {f : FieldItem} (h : f ∈ s.namedFields) :
    ∃ g ∈ Declaration.fieldsOf t s, Field.ofItem? t f = some g := by
  obtain ⟨hf, hn⟩ := List.mem_filter.1 h
  obtain ⟨name, hn⟩ := Option.isSome_iff_exists.1 hn
  refine ⟨_, ?_, by rw [Field.ofItem?, hn]; rfl⟩
  rw [fieldsOf_eq]
  exact List.mem_filterMap.2 ⟨f, hf, by rw [Field.ofItem?, hn]; rfl⟩

/-- **What is computed from the fields of some roles** in the declaration is computed from the
fields of these roles in the struct, if this holds of each of them. -/
theorem map_filter_fieldsOf {s : StructItem} (q : Option Role → Bool) {g : Field → α}
    {g' : FieldItem → α} (h : ∀ f f', Field.ofItem? t f = some f' → q (f.role? t) → g f' = g' f) :
    ((Declaration.fieldsOf t s).filter fun f => q (f.role? t)).map g =
      (s.namedFields.filter fun f => q (f.role? t)).map g' := by
  rw [fieldsOf_eq, List.filter_filterMap, List.map_filterMap, StructItem.namedFields,
    List.filter_filter]
  refine filterMap_eq_map_filter fun f _ => ?_
  rcases hn : f.name with _ | name
  · simp [Field.ofItem?, hn]
  · have known : Field.ofItem? t f = some ⟨name, f.type, f.visibility,
        f.attributes.filterMap t.marker?, f.kept t⟩ := by
      rw [Field.ofItem?, hn]
      rfl
    rw [known, Option.filter_some, Field.role?_ofItem? known]
    cases hf : q (f.role? t)
    · simp
    · simp [h f _ known hf]

end RequestGroups
