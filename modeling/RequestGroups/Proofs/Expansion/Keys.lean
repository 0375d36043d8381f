import RequestGroups.Proofs.Expansion.Attributes
import RequestGroups.Proofs.Grammar.StringExpressions
import RequestGroups.Proofs.Source.Literal

/-! # Keys survive their literals

A marker gives a key as a string literal in the source, and the field of the group record has the
key as a string literal in the output. The first one may have any escapes or be raw, the second one
is the literal that is emitted for the value of the first.

* `ReadsBack`: the emitted literal is one token, and whoever reads it finds the key;
* `keyIn_of_isMarker`: the key of a field is the one that its marker gives, or its name;
* `expand_respelled`: emitted literals in place of those in the markers change nothing;
* `Config.KeepsKeys` collects what an expansion does with keys, and `keeps_keys` says that every key
  is read back and that every configuration keeps the keys. -/

namespace RequestGroups

open Source Grammar Text

variable {t : MarkerTable} {c : Config} {a b : Attribute} {key : String}

/-! ### The emitted literal -/

/-- **A key is read back** from the literal that is emitted for it. -/
structure ReadsBack (key : String) : Prop where
  /-- The literal stands where the attribute of the field gives its name. -/
  emitted : (GroupRecord.keyAttribute key).trees = [.punct '#' false .callSite,
    .group .bracket .callSite .callSite [.ident (.plain "serde"),
      .group .paren .callSite .callSite [.ident (.plain "rename"), .punct '=' false .callSite,
        .literal (Quoted.write key) .callSite]]]
  /-- As a text it is one token. -/
  token : ∃ span, tokenize (Quoted.write key) = .ok [.literal (Quoted.write key) span]
  /-- It has the key as its value, without a suffix. -/
  value : Quoted.read? (Quoted.write key) = some (key, "")
  /-- As the name of a field it gives the key. -/
  rename : ∀ (a : Attribute) (n : Ident) d opens closes equals here, a.path.isName "serde" →
    n.spells "rename" → a.entry.argument = .list d opens closes
      [.ident n, .punct '=' false equals, .literal (Quoted.write key) here] →
        ∃ x, renameEntry? a = some x ∧ x.stringValue? = some key
  /-- As the argument of a marker it gives the key. -/
  argument : ∀ d opens closes span,
    MarkerArgument.ofArgument (.list d opens closes [.literal (Quoted.write key) span]) =
      .string key

theorem isName_of_spells_rename {n : Ident} (h : n.spells "rename") : Look.isName n := by
  have spelling : n.spelling = "rename" := eq_of_beq h
  rw [Look.isName, Bool.or_eq_true]
  rcases hr : n.raw with _ | _
  · right
    rw [Ident.spelling, hr] at spelling
    have name : n.name = "rename" := spelling
    rw [name]
    decide
  · exact Or.inl rfl

/-- An attribute that assigns the emitted literal to `rename` gives the key, wherever the two
stand. -/
theorem renameEntry?_assigned {n : Ident} {d : Delimiter} {opens closes equals here : Span}
    (hserde : a.path.isName "serde") (hn : n.spells "rename")
    (ha : a.entry.argument = .list d opens closes
      [.ident n, .punct '=' false equals, .literal (Quoted.write key) here]) :
    ∃ x, renameEntry? a = some x ∧ x.stringValue? = some key := by
  have hu : n.spells "unsafe" = false := by
    rw [Ident.spells, eq_of_beq hn]
    decide
  have entries := entries?_assigned (isName_of_spells_rename hn) hu ha
  refine ⟨assigned n equals (Quoted.write key) here, ?_, stringValue?_quoted key⟩
  unfold renameEntry?
  rw [if_pos hserde, entries]
  exact List.find?_cons_of_pos hn

theorem readsBack (key : String) : ReadsBack key := by
  constructor
  case emitted => rfl
  case token => exact ⟨_, tokenize_write key⟩
  case value => exact Quoted.read?_write key
  case rename => exact fun a n d opens closes equals here => renameEntry?_assigned
  case argument =>
    intro d opens closes span
    refine ofArgument_literal ?_
    exact stringValue?_quoted key

/-! ### The key of a field -/

theorem argument_of_marker? {m : Marker} (h : t.marker? a = some m) :
    m.argument = .ofArgument a.entry.argument := by
  unfold MarkerTable.marker? at h
  split at h
  · obtain ⟨tag, -, rfl⟩ := Option.map_eq_some_iff.1 h
    rfl
  · exact absurd h nofun

/-- A marker that is registered stands for a marker of the field with a role. -/
theorem registered?_of_isMarker (h : t.isMarker a) :
    ∃ m r, t.registered? a = some (m, r) ∧ m.argument = .ofArgument a.entry.argument := by
  have role := t.map_snd_registered? a
  have marker := t.map_fst_registered? a
  rcases hr : t.registered? a with _ | ⟨m, r⟩
  · rw [hr] at role
    rw [MarkerTable.isMarker, ← role] at h
    exact absurd h Bool.false_ne_true
  · rw [hr] at marker
    exact ⟨m, r, rfl, argument_of_marker? marker.symm⟩

/-- **The key of a field** is the one that its only marker gives, or its name. -/
theorem keyIn_of_isMarker {f : FieldItem} {g : Field} (hg : Field.ofItem? t f = some g)
    (one : (g.registered t).length ≤ 1) (ha : a ∈ f.attributes) (hm : t.isMarker a) :
    f.keyIn t = (MarkerArgument.ofArgument a.entry.argument).key?.getD g.name.name := by
  obtain ⟨m, r, hreg, harg⟩ := registered?_of_isMarker hm
  have mem : (m, r) ∈ g.registered t := by
    rw [Field.registered_ofItem? hg]
    exact List.mem_filterMap.2 ⟨a, ha, hreg⟩
  have only : g.registered t = [(m, r)] := by
    obtain ⟨x, hx⟩ := List.length_eq_one_iff.1 (Nat.le_antisymm one (List.length_pos_of_mem mem))
    rw [hx] at mem ⊢
    rw [List.mem_singleton.1 mem]
  rw [← Field.keyIn_ofItem? hg, Field.keyIn, Field.explicitKey?, only]
  simp [harg]

/-! ### Emitted literals in the source -/

/-- A marker with the emitted literal of its key in place of its argument, wherever this literal
stands, or the same attribute. -/
def Respelled (t : MarkerTable) (a b : Attribute) : Prop :=
  b = a ∨ t.isMarker a ∧ ∃ key d opens closes here span,
    MarkerArgument.ofArgument a.entry.argument = .string key ∧
      b = ⟨a.inner, ⟨a.path, .list d opens closes [.literal (Quoted.write key) here], span⟩⟩

/-- A field with emitted literals in some of its markers. -/
def Grammar.FieldItem.Respelled (t : MarkerTable) (f g : FieldItem) : Prop :=
  List.Forall₂ (RequestGroups.Respelled t) f.attributes g.attributes ∧
    g = { f with attributes := g.attributes }

/-- A struct with emitted literals in some of the markers on its fields. -/
def Grammar.StructItem.Respelled (t : MarkerTable) (s s' : StructItem) : Prop :=
  ∃ l fs, s.fields = .named l ∧ List.Forall₂ (FieldItem.Respelled t) l.fields fs ∧
    s' = { s with fields := .named { l with fields := fs } }

theorem isMarker_respelled (h : Respelled t a b) : t.isMarker b = t.isMarker a := by
  obtain rfl | ⟨-, key, d, opens, closes, here, span, -, rfl⟩ := h <;> rfl

theorem marker?_respelled (h : Respelled t a b) : t.marker? b = t.marker? a := by
  obtain rfl | ⟨-, key, d, opens, closes, here, span, hkey, rfl⟩ := h
  · rfl
  · have argument := (readsBack key).argument d opens closes here
    unfold MarkerTable.marker? MarkerTable.isMarker MarkerTable.roleOfAttribute
      Marker.ofAttribute? Attribute.tag? Attribute.path
    dsimp only
    rw [argument, hkey]

section Lists

variable {as bs : List Attribute} (h : List.Forall₂ (Respelled t) as bs)
include h

theorem filterMap_respelled : bs.filterMap t.marker? = as.filterMap t.marker? :=
  filterMap_eq_of_forall₂ (fun _ _ hab => marker?_respelled hab) h

theorem findSome?_respelled : bs.findSome? t.marker? = as.findSome? t.marker? := by
  rw [← List.head?_filterMap, ← List.head?_filterMap, filterMap_respelled h]

/-- Attributes that are no markers stay the same. -/
theorem filter_respelled :
    bs.filter (fun a => !t.isMarker a) = as.filter fun a => !t.isMarker a := by
  induction h with
  | nil => rfl
  | cons hab _ ih =>
    rw [List.filter_cons, List.filter_cons, isMarker_respelled hab, ih]
    obtain rfl | ⟨hm, -⟩ := hab
    · rfl
    · rw [hm]
      rfl

end Lists

theorem keyIn_respelled {f g : FieldItem} (h : f.Respelled t g) : g.keyIn t = f.keyIn t := by
  obtain ⟨attributes, hg⟩ := h
  rw [hg, FieldItem.keyIn, FieldItem.keyIn, findSome?_respelled attributes]

theorem grouped_respelled {f g : FieldItem} (h : f.Respelled t g) : g.grouped t = f.grouped t := by
  have keyIn := keyIn_respelled h
  obtain ⟨attributes, hg⟩ := h
  have others : g.others t = f.others t := by
    rw [FieldItem.others, FieldItem.others, FieldItem.kept, FieldItem.kept,
      filter_respelled attributes]
  rw [FieldItem.grouped, FieldItem.grouped, others, keyIn, hg]

theorem ofItem?_respelled {f g : FieldItem} (h : f.Respelled t g) :
    Field.ofItem? t g = Field.ofItem? t f := by
  obtain ⟨attributes, hg⟩ := h
  rw [hg, Field.ofItem?, Field.ofItem?, filter_respelled attributes,
    filterMap_respelled attributes]

/-- The declaration says the same. -/
theorem survey_respelled {s s' : StructItem} (h : s.Respelled t s') :
    Declaration.survey t (.struct s') = Declaration.survey t (.struct s) := by
  obtain ⟨l, fs, hs, hfs, rfl⟩ := h
  have fields : fs.filterMap (Field.ofItem? t) = l.fields.filterMap (Field.ofItem? t) :=
    filterMap_eq_of_forall₂ (fun _ _ hfg => ofItem?_respelled hfg) hfs
  have declaration (derives : List Path) :
      Declaration.ofStruct t { s with fields := .named { l with fields := fs } } derives =
        Declaration.ofStruct t s derives := by
    unfold Declaration.ofStruct Declaration.kindOf Declaration.fieldsOf
    rw [hs]
    dsimp only
    rw [fields]
    rfl
  unfold Declaration.survey
  dsimp only
  split
  · rw [declaration]
  · rw [declaration]

/-- **Emitted literals in the markers** change nothing. -/
theorem expand_respelled {s s' : StructItem} (h : s.Respelled c.markers s') :
    c.expand (.struct s') = c.expand (.struct s) := by
  rw [Config.expand, Config.expand, expansionOf, expansionOf, Declaration.ofItem,
    Declaration.ofItem, survey_respelled h]

/-! ### All keys of a configuration -/

/-- A field with a marker is emitted with the literal of its key, behind its other attributes. -/
theorem emitted_of_isMarker {s : StructItem} {e : Expansion}
    (he : expansionOf c (.struct s) = .ok e) {f : FieldItem} (hf : f ∈ s.namedFields)
    (ha : a ∈ f.attributes) (hm : c.markers.isMarker a) :
    (∃ n, f.name = some n ∧ f.keyIn c.markers =
      (MarkerArgument.ofArgument a.entry.argument).key?.getD n.name) ∧
    ∃ r, ∃ g ∈ StructItem.items ((e.record r).code c e.declaration), g.name = f.name ∧
      g.attributes = f.others c.markers ++ [GroupRecord.keyAttribute (f.keyIn c.markers)] := by
  obtain ⟨derives, -, hd⟩ := expansionOf_struct he
  obtain ⟨accepted, rfl⟩ := Declaration.expand_eq_expansion hd
  obtain ⟨g, hg, hof⟩ := exists_ofItem? (t := c.markers) hf
  have annotated : (f.role? c.markers).isSome := by
    rw [FieldItem.role?, List.findSome?_isSome_iff]
    exact ⟨a, ha, hm⟩
  obtain ⟨r, hr⟩ := Option.isSome_iff_exists.1 annotated
  have keyIn := keyIn_of_isMarker hof (accepted.markers g hg) ha hm
  refine ⟨⟨g.name, (Field.name_ofItem? hof).symm, keyIn⟩, r, f.grouped c.markers, ?_, rfl, rfl⟩
  rw [Declaration.items_code]
  exact List.mem_map_of_mem (List.mem_filter.2 ⟨hf, decide_eq_true hr⟩)

/-- A field whose marker gives a key is emitted with the literal of this key. -/
theorem emitted_of_marker {s : StructItem} {e : Expansion} (he : expansionOf c (.struct s) = .ok e)
    {f : FieldItem} (hf : f ∈ s.namedFields) (ha : a ∈ f.attributes) (hm : c.markers.isMarker a)
    (hkey : MarkerArgument.ofArgument a.entry.argument = .string key) :
    f.keyIn c.markers = key ∧ ∃ r, ∃ g ∈ StructItem.items ((e.record r).code c e.declaration),
      g.name = f.name ∧ g.attributes = f.others c.markers ++ [GroupRecord.keyAttribute key] := by
  obtain ⟨⟨n, -, keyIn⟩, emitted⟩ := emitted_of_isMarker he hf ha hm
  rw [hkey] at keyIn
  rw [keyIn] at emitted
  exact ⟨keyIn, emitted⟩

/-- **What a configuration does with keys**, on the way from the markers to the output. -/
structure Config.KeepsKeys (c : Config) : Prop where
  /-- The key that a marker gives is the value of the first literal in it, which is a string. -/
  literal : ∀ a key, MarkerArgument.ofArgument a = .string key → ∃ text suffix,
    a.firstLiteral? = some text ∧ Look.isString text ∧ Quoted.read? text = some (key, suffix)
  /-- Every string literal gives its value as the key, in whatever way it is written. -/
  accepted : ∀ text key suffix, Look.isString text → Quoted.read? text = some (key, suffix) →
    ∀ d opens closes span,
      MarkerArgument.ofArgument (.list d opens closes [.literal text span]) = .string key
  /-- The field is emitted with the literal of the key. -/
  emitted : ∀ s tokens, c.expand (.struct s) = .ok tokens → ∃ e,
    expansionOf c (.struct s) = .ok e ∧ (e.emit c).trees = tokens ∧
      ∀ f ∈ s.namedFields, ∀ a ∈ f.attributes, c.markers.isMarker a → ∀ key,
        MarkerArgument.ofArgument a.entry.argument = .string key →
          f.keyIn c.markers = key ∧
            ∃ r, ∃ g ∈ StructItem.items ((e.record r).code c e.declaration),
              g.name = f.name ∧ g.attributes = f.others c.markers ++ [GroupRecord.keyAttribute key]
  /-- With the emitted literals in its markers a field has the same key and is emitted alike. -/
  fields : ∀ f g, FieldItem.Respelled c.markers f g →
    g.keyIn c.markers = f.keyIn c.markers ∧ g.grouped c.markers = f.grouped c.markers
  /-- With these literals the whole output is the same. -/
  structs : ∀ s s', StructItem.Respelled c.markers s s' →
    c.expand (.struct s') = c.expand (.struct s)

/-- **Keys survive**: every key is read back from its literal, and every configuration emits the
keys that the markers give. -/
theorem keeps_keys (c : Config) : (∀ key, ReadsBack key) ∧ c.KeepsKeys := by
  refine ⟨readsBack, ?_⟩
  constructor
  case literal => exact fun a key h => firstLiteral?_of_string h
  case accepted =>
    intro text key suffix isString hread d opens closes span
    refine ofArgument_literal ?_
    rw [Rules.stringValue?, if_pos isString, hread]
    rfl
  case emitted =>
    intro s tokens h
    obtain ⟨e, he, htokens⟩ := Config.expand_eq_ok.1 h
    exact ⟨e, he, htokens, fun f hf a ha hm key hkey => emitted_of_marker he hf ha hm hkey⟩
  case fields => exact fun f g h => ⟨keyIn_respelled h, grouped_respelled h⟩
  case structs => exact fun s s' h => expand_respelled h

/-- A raw literal and one with escapes and a continued line have one value. -/
example : Quoted.read? "r#\"X-\"Id\"\"#" = some ("X-\"Id\"", "") ∧
    Quoted.read? "\"X-\\\n  \\x22Id\\u\x7b0_22\x7d\"" = some ("X-\"Id\"", "") := by
  decide +kernel

end RequestGroups
