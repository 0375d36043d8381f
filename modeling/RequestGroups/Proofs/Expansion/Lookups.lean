import RequestGroups.Proofs.Expansion.RawNames
import RequestGroups.Proofs.Source.Identifier

/-! # Lookups by name

A name is looked up as it is written, while the names of fields are distinct without the mark of raw
identifiers. Both come to the same, since the name of an identifier leaves its mark out
(`Ident.name_eq_of_spelling_eq`). So every lookup on an expansion asks for the field of this name:

* `keyOf?_record`, `accessor?_expansion` and `filter_plainFields` lead lookups back to
  `Declaration.field?`;
* `Expansion.LooksUp` says what is found under each name, and `looksUp_of_expand` shows it. -/

namespace RequestGroups

open Source Grammar

/-! ### Names as they are written -/

namespace Source

/-- The name of the identifier leaves the mark of raw identifiers out. -/
def Ident.LeavesMarkOut (i : Ident) : Prop := ¬ "r#".toList <+: i.name.toList

instance (i : Ident) : Decidable i.LeavesMarkOut := inferInstanceAs (Decidable (¬ _))

theorem Ident.not_leavesMarkOut {i j : Ident} (h : "r#" ++ i.name = j.name) :
    ¬ j.LeavesMarkOut := by
  intro hj
  refine hj ?_
  rw [← h, String.toList_append]
  exact List.prefix_append ..

/-- Identifiers that are written alike have one name. -/
theorem Ident.name_eq_of_spelling_eq {i j : Ident} (hi : i.LeavesMarkOut) (hj : j.LeavesMarkOut)
    (h : i.spelling = j.spelling) : i.name = j.name := by
  unfold spelling at h
  rcases hri : i.raw <;> rcases hrj : j.raw <;> rw [hri, hrj] at h
  · exact h
  · exact absurd hi (not_leavesMarkOut h.symm)
  · exact absurd hj (not_leavesMarkOut h)
  · exact String.append_right_inj _ |>.1 h

/-- **Every identifier of a source text** leaves its mark out. -/
theorem leavesMarkOut_of_ident? {cs rest : List Char} {raw : Bool} {name : String}
    (h : ident? cs = some (raw, name, rest)) (span : Span) :
    Ident.LeavesMarkOut ⟨raw, name, span⟩ := by
  obtain ⟨word, -⟩ := Ident.isSpelled_iff.1 (Ident.isSpelled_of_ident? h span)
  have front : ¬ "r#".toList <+: name.toList ++ [] := word.not_startsWith_mark nofun
  rwa [List.append_nil] at front

end Source

/-! ### Lookups lead back to the declaration -/

/-- The accessor of an annotated field. -/
def Field.accessor (r : Role) (f : Field) : Accessor := ⟨f.name, f.type, f.visibility, r, f.docs⟩

namespace Declaration

variable {d : Declaration} {c : Config} {e : Expansion} {n : String}

/-- At most one field is written in a given way. -/
theorem eq_of_spells (names : (d.fields.map (·.name.name)).Nodup)
    (marks : ∀ f ∈ d.fields, f.name.LeavesMarkOut) (n : String) :
    ∀ f ∈ d.fields, ∀ g ∈ d.fields, f.name.spells n → g.name.spells n → f = g := by
  intro f hf g hg hfn hgn
  have alike : f.name.spelling = g.name.spelling := (eq_of_beq hfn).trans (eq_of_beq hgn).symm
  exact List.inj_on_of_nodup_map names hf hg
    (Ident.name_eq_of_spelling_eq (marks f hf) (marks g hg) alike)

section Lookups

variable (names : (d.fields.map (·.name.name)).Nodup)
  (marks : ∀ f ∈ d.fields, f.name.LeavesMarkOut)
include names marks

theorem field?_eq_some {f : Field} : d.field? n = some f ↔ f ∈ d.fields ∧ f.name.spells n := by
  constructor
  · intro h
    unfold field? at h
    have hn := List.find?_some h
    exact ⟨List.mem_of_find?_eq_some h, hn⟩
  · rintro ⟨hf, hn⟩
    exact find?_eq_some hf hn fun g hg hgn => eq_of_spells names marks n g hg f hf hgn hn

theorem keyOf?_record (r : Role) (n : String) : ((d.expansion c).record r).keyOf? n =
    ((d.field? n).filter (·.role? c.markers = some r)).map (·.keyIn c.markers) := by
  have found : (d.members c r).find? (·.name.spells n) =
      (d.field? n).filter (·.role? c.markers = some r) :=
    find?_filter_of_one (eq_of_spells names marks n)
  rw [record_expansion, GroupRecord.keyOf?, List.find?_map, Option.map_map, ← found]
  rfl

theorem accessor?_expansion (n : String) : (d.expansion c).accessor? n =
    (d.field? n).bind fun f => (f.role? c.markers).map (Field.accessor · f) := by
  rw [Expansion.accessor?, accessors_expansion names]
  refine find?_filterMap_of_one (eq_of_spells names marks n) fun f a ha => ?_
  obtain ⟨r, -, rfl⟩ := Option.map_eq_some_iff.1 ha
  rfl

theorem filter_plainFields (n : String) : (d.expansion c).plainFields.filter (·.name.spells n) =
    ((d.field? n).filter (·.role? c.markers = none)).toList := by
  have spelled : d.fields.filter (·.name.spells n) = (d.field? n).toList :=
    filter_eq_toList_find? (List.Nodup.of_map _ names) (eq_of_spells names marks n)
  rw [Option.toList_filter, ← spelled, List.filter_comm]
  rfl

end Lookups

end Declaration

/-! ### What is found -/

/-- Nothing in the expansion is found under a name that is written in this way. -/
structure Expansion.FindsNothing (e : Expansion) (n : String) : Prop where
  keys : ∀ r, (e.record r).keyOf? n = none
  records : ∀ r, (e.record r).contains n = false
  plain : ∀ f ∈ e.plainFields, f.name.spells n = false
  accessor : e.accessor? n = none

/-- A field of a group is found under its name: in the record of its group, and by its accessor. -/
structure Expansion.FindsMember (e : Expansion) (t : MarkerTable) (f : Field) (r : Role)
    (n : String) : Prop where
  key : (e.record r).keyOf? n = some (f.keyIn t)
  record : (e.record r).contains n = true
  others : ∀ s, s ≠ r → (e.record s).contains n = false
  plain : ∀ g ∈ e.plainFields, g.name.spells n = false
  accessor : ∃ a, e.accessor? n = some a ∧ a.owner = r ∧ a.type = f.type

/-- A plain field is found under its name: among the plain fields, and only once. -/
structure Expansion.FindsPlain (e : Expansion) (f : Field) (n : String) : Prop where
  plain : e.plainFields.filter (·.name.spells n) = [f]
  records : ∀ r, (e.record r).contains n = false
  accessor : e.accessor? n = none

/-- **What is looked up** in the expansion of a declaration. -/
structure Expansion.LooksUp (e : Expansion) (d : Declaration) (t : MarkerTable) : Prop where
  /-- The accessors are those of the annotated fields, in the order of the declaration. -/
  accessors : e.accessors =
    d.fields.filterMap fun f => (f.role? t).map fun r => ⟨f.name, f.type, f.visibility, r, f.docs⟩
  annotated : ∀ f ∈ d.fields, ∀ r, f.role? t = some r → ∀ n, f.name.spells n →
    e.FindsMember t f r n
  plain : ∀ f ∈ d.fields, f.role? t = none → ∀ n, f.name.spells n → e.FindsPlain f n
  undeclared : ∀ n, (∀ f ∈ d.fields, f.name.spells n = false) → e.FindsNothing n
  arity : e.constructor.arity = e.headerRecord.fields.length + e.bodyRecord.fields.length
  accessorCount : e.accessors.length = e.constructor.arity
  parameters : e.constructor.parameters =
    (e.headerRecord.fields ++ e.bodyRecord.fields).map fun f => ⟨f.name, f.type⟩

namespace Declaration

variable {d : Declaration} {c : Config} {e : Expansion} {n : String}

section Found

variable (names : (d.fields.map (·.name.name)).Nodup)
  (marks : ∀ f ∈ d.fields, f.name.LeavesMarkOut)
include names marks

theorem findsMember {f : Field} (hf : f ∈ d.fields) {r : Role} (hr : f.role? c.markers = some r)
    (hn : f.name.spells n) : (d.expansion c).FindsMember c.markers f r n := by
  have found := (field?_eq_some names marks).2 ⟨hf, hn⟩
  have keyOf : ∀ s, ((d.expansion c).record s).keyOf? n =
      if r = s then some (f.keyIn c.markers) else none := by
    intro s
    rw [keyOf?_record names marks, found, Option.filter_some, hr]
    by_cases h : r = s <;> simp [h]
  constructor
  case key => rw [keyOf, if_pos rfl]
  case record =>
    rw [GroupRecord.contains, keyOf, if_pos rfl]
    rfl
  case others =>
    intro s hs
    rw [GroupRecord.contains, keyOf, if_neg hs.symm]
    rfl
  case plain =>
    have none := filter_plainFields (c := c) names marks n
    rw [found, Option.filter_some, hr] at none
    simpa using List.filter_eq_nil_iff.1 none
  case accessor =>
    refine ⟨f.accessor r, ?_, rfl, rfl⟩
    rw [accessor?_expansion names marks, found, Option.bind_some, hr]
    rfl

theorem findsPlain {f : Field} (hf : f ∈ d.fields) (hr : f.role? c.markers = none)
    (hn : f.name.spells n) : (d.expansion c).FindsPlain f n := by
  have found := (field?_eq_some names marks).2 ⟨hf, hn⟩
  constructor
  case plain =>
    rw [filter_plainFields names marks, found, Option.filter_some, if_pos (decide_eq_true hr)]
    rfl
  case records =>
    intro r
    rw [GroupRecord.contains, keyOf?_record names marks, found, Option.filter_some, hr]
    rfl
  case accessor =>
    rw [accessor?_expansion names marks, found, Option.bind_some, hr]
    rfl

theorem findsNothing (hn : ∀ f ∈ d.fields, f.name.spells n = false) :
    (d.expansion c).FindsNothing n := by
  have found : d.field? n = none := List.find?_eq_none.2 fun f hf => by simp [hn f hf]
  have keyOf : ∀ r, ((d.expansion c).record r).keyOf? n = none := by
    intro r
    rw [keyOf?_record names marks, found]
    rfl
  constructor
  case keys => exact keyOf
  case records =>
    intro r
    rw [GroupRecord.contains, keyOf]
    rfl
  case plain => exact fun f hf => hn f (mem_plainOf.1 hf).1
  case accessor => rw [accessor?_expansion names marks, found, Option.bind_none]

end Found

/-! ### Counts -/

theorem length_groups (t : MarkerTable) (fs : List Field) :
    (group t fs .header).length + (group t fs .body).length =
      (fs.filterMap (·.role? t)).length := by
  unfold group
  induction fs with
  | nil => rfl
  | cons f fs ih =>
    rcases h : f.role? t with _ | _ | _ <;> simp [h] <;> omega

theorem fields_record (r : Role) : ((d.expansion c).record r).fields =
    (d.members c r).map (Field.grouped c.markers) :=
  congrArg GroupRecord.fields (record_expansion r)

theorem arity_eq_length : (d.expansion c).constructor.arity =
    ((d.expansion c).record .header).fields.length +
      ((d.expansion c).record .body).fields.length := by
  rw [Constructor.arity, headerParameters_expansion, bodyParameters_expansion, fields_record,
    fields_record]
  simp only [List.length_map]

theorem length_accessors (names : (d.fields.map (·.name.name)).Nodup) :
    (d.expansion c).accessors.length = (d.expansion c).constructor.arity := by
  have owners := congrArg List.length (owners_expansion (c := c) names)
  rw [List.length_map] at owners
  rw [owners, ← length_groups, Constructor.arity, headerParameters_expansion,
    bodyParameters_expansion, List.length_map, List.length_map]

theorem parameters_eq_fields : (d.expansion c).constructor.parameters =
    (((d.expansion c).record .header).fields ++ ((d.expansion c).record .body).fields).map
      fun f => ⟨f.name, f.type⟩ := by
  rw [Constructor.parameters, headerParameters_expansion, bodyParameters_expansion, fields_record,
    fields_record, List.map_append, List.map_map, List.map_map]
  rfl

/-- **Lookups are consistent**: under the name of a field is found what becomes of this field, and
nothing under another name. The names are those of identifiers, which leave their mark out
(`leavesMarkOut_of_ident?`). -/
theorem looksUp_of_expand (marks : ∀ f ∈ d.fields, f.name.LeavesMarkOut)
    (h : d.expand c = .ok e) : e.LooksUp d c.markers := by
  obtain ⟨accepted, rfl⟩ := expand_eq_expansion h
  have names := accepted.names
  constructor
  case accessors => exact accessors_expansion names
  case annotated => exact fun f hf r hr n hn => findsMember names marks hf hr hn
  case plain => exact fun f hf hr n hn => findsPlain names marks hf hr hn
  case undeclared => exact fun n hn => findsNothing names marks hn
  case arity => exact arity_eq_length
  case accessorCount => exact length_accessors names
  case parameters => exact parameters_eq_fields

theorem looksUp_mixedStruct : (∀ f ∈ mixedStruct.fields, f.name.LeavesMarkOut) ∧
    mixedStruct.expand {} = .ok (mixedStruct.expansion {}) ∧
    (mixedStruct.expansion {}).LooksUp mixedStruct .default := by
  have marks : ∀ f ∈ mixedStruct.fields, f.name.LeavesMarkOut := by decide
  exact ⟨marks, expand_mixedStruct, looksUp_of_expand marks expand_mixedStruct⟩

/-- A raw name is looked up with its mark, and its key is the name without it. -/
example : (mixedStruct.expansion {}).bodyRecord.keyOf? "r#type" = some "type" ∧
    (mixedStruct.expansion {}).bodyRecord.keyOf? "type" = none := by
  decide

end Declaration

end RequestGroups
