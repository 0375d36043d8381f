import RequestGroups.Expansion.Basic
import RequestGroups.Proofs.Expansion.Split

/-! # Which declarations are expanded

`Declaration.Acceptable` lists what a configuration asks of a declaration, rule by rule and without
any order: its shape, the names of its fields, the markers and attributes on them, and the keys of
each group. A declaration is expanded exactly if it is acceptable (`expand_iff_acceptable`), and the
expansion is then the one of the split of its fields (`expand_eq_ok`).

* `firstRepeat_eq_none`: no repeat is found if and only if all keys are distinct;
* `Declaration.violation?_eq_none`, `Partition.violation?_eq_none`: what the two checks let
  through. -/

namespace RequestGroups

open Source Grammar

/-! ### The rules -/

/-- An attribute on a member of a group that renames it: `renames` says which entries of an
attribute list do. -/
def Renaming (renames : Entry → Prop) (a : Attribute) : Prop :=
  a.path.isName "serde" ∧ ∃ es, a.entries? = some es ∧ ∃ x ∈ es, renames x

/-- **What a configuration asks of a declaration.** Names are compared without the mark of raw
identifiers. -/
structure Declaration.Acceptable (renames : Entry → Prop) (d : Declaration) (c : Config) :
    Prop where
  kind : d.kind = .struct
  names : (d.fields.map (·.name.name)).Nodup
  markers : ∀ f ∈ d.fields, (f.registered c.markers).length ≤ 1
  storage : ∀ f ∈ d.fields, ∀ r, f.name.name ≠ (c.storage r).name
  constructor : ∀ r, c.constructor.name ≠ conversionName r
  methods : ∀ f ∈ d.fields, f.IsAnnotated c.markers →
    f.name.name ≠ c.constructor.name ∧ ∀ r, f.name.name ≠ conversionName r
  attributes : ∀ f ∈ d.fields, f.IsAnnotated c.markers →
    ∀ a ∈ f.attributes, ¬ Renaming renames a
  keys : ∀ r, ((group c.markers d.fields r).map (Field.keyIn · c.markers)).Nodup

/-! ### Repeats -/

/-- No element repeats the key of one in front of it, or of one already seen. -/
theorem firstRepeat_eq_none [BEq β] [LawfulBEq β] {key : α → β} {seen l : List α} :
    firstRepeat key seen l = none ↔
      (l.map key).Nodup ∧ ∀ a ∈ l, ∀ b ∈ seen, key b ≠ key a := by
  induction l generalizing seen with
  | nil => simp [firstRepeat]
  | cons a l ih =>
    unfold firstRepeat
    rcases h : seen.find? fun b => key b == key a with _ | b
    · have hseen : ∀ b ∈ seen, key b ≠ key a := by simpa using h
      simp only [ih, List.map_cons, List.nodup_cons, List.mem_map, List.mem_append,
        List.mem_singleton, List.forall_mem_cons]
      constructor
      · rintro ⟨hl, h⟩
        refine ⟨⟨?_, hl⟩, hseen, fun x hx b hb => h x hx b (Or.inl hb)⟩
        rintro ⟨x, hx, he⟩
        exact h x hx a (Or.inr rfl) he.symm
      · rintro ⟨⟨ha, hl⟩, -, h⟩
        refine ⟨hl, fun x hx b hb => ?_⟩
        rcases hb with hb | rfl
        · exact h x hx b hb
        · exact fun he => ha ⟨x, hx, he.symm⟩
    · have hb := List.mem_of_find?_eq_some h
      have he : key b = key a := by simpa using List.find?_some h
      simp only [reduceCtorEq, false_iff, not_and, List.forall_mem_cons]
      exact fun _ h _ => h b hb he

/-- Repeats do not depend on what is put in the place of the elements, as long as the keys stay. -/
theorem firstRepeat_map [BEq β] {key : α → β} {g : α → α} (hg : ∀ a, key (g a) = key a)
    (seen l : List α) : firstRepeat key (seen.map g) (l.map g) =
      (firstRepeat key seen l).map (Prod.map g g) := by
  induction l generalizing seen with
  | nil => rfl
  | cons a l ih =>
    have found : (seen.map g).find? (fun b => key b == key (g a)) =
        (seen.find? fun b => key b == key a).map g := by
      rw [List.find?_map]
      simp only [Function.comp_def, hg]
    rw [List.map_cons]
    unfold firstRepeat
    rw [found]
    rcases seen.find? fun b => key b == key a with _ | b
    · exact (congrArg (firstRepeat key · _) List.map_append.symm).trans (ih (seen ++ [a]))
    · rfl

/-! ### What each check lets through -/

theorem Declaration.violation?_eq_none {d : Declaration} :
    d.violation? = none ↔ d.kind = .struct ∧ (d.fields.map (·.name.name)).Nodup := by
  unfold Declaration.violation?
  by_cases h : d.kind = .struct
  · simp [h, firstRepeat_eq_none]
  · simp [h]

theorem storageClash?_eq_none {c : Config} {f : Field} :
    storageClash? c f = none ↔ ∀ r, f.name.name ≠ (c.storage r).name := by
  unfold storageClash?
  simp [ne_comm]

theorem isConversionName_eq_false {name : String} :
    isConversionName name = false ↔ ∀ r, name ≠ conversionName r := by
  unfold isConversionName
  simp [ne_comm]

theorem constructorClash?_eq_none {c : Config} :
    constructorClash? c = none ↔ ∀ r, c.constructor.name ≠ conversionName r := by
  unfold constructorClash?
  rw [← isConversionName_eq_false]
  simp

theorem methodClash?_eq_none {c : Config} {m : ClassifiedField} :
    methodClash? c m = none ↔ m.field.name.name ≠ c.constructor.name ∧
      ∀ r, m.field.name.name ≠ conversionName r := by
  unfold methodClash? generatedFor?
  rw [← isConversionName_eq_false]
  by_cases h : m.field.name.name = c.constructor.name
  · simp [h]
  · simp [h]

theorem renameEntry?_eq_none {a : Attribute} :
    renameEntry? a = none ↔ ¬ Renaming (Entry.isRename ·) a := by
  unfold renameEntry? Renaming
  by_cases h : a.path.isName "serde"
  · rcases a.entries? with _ | es <;> simp [h]
  · simp [h]

theorem renameClash?_eq_none {m : ClassifiedField} :
    renameClash? m = none ↔ ∀ a ∈ m.field.attributes, ¬ Renaming (Entry.isRename ·) a := by
  unfold renameClash?
  simp [renameEntry?_eq_none]

theorem keyClash?_eq_none {p : Partition} {r : Role} :
    keyClash? p r = none ↔ ((p.fields r).map ClassifiedField.key).Nodup := by
  unfold keyClash?
  simp [firstRepeat_eq_none]

/-- A partition is let through if every one of its checks lets it through. -/
theorem Partition.violation?_eq_none {p : Partition} {d : Declaration} {c : Config} :
    p.violation? d c = none ↔
      (∀ f ∈ d.fields, storageClash? c f = none) ∧ constructorClash? c = none ∧
      (∀ m ∈ p.annotated, methodClash? c m = none ∧ renameClash? m = none) ∧
      ∀ r, keyClash? p r = none := by
  unfold Partition.violation?
  simp [List.findSome?_eq_none_iff]

/-- The keys of a group are those of its fields. -/
theorem Partition.keys_split (t : MarkerTable) (fs : List Field) (r : Role) :
    ((split t fs).fields r).map ClassifiedField.key = (group t fs r).map (Field.keyIn · t) := by
  rw [fields_split, List.map_map]
  rfl

/-- The members of the split are the annotated fields. -/
theorem Partition.forall_annotated_split {t : MarkerTable} {fs : List Field} {P : Field → Prop} :
    (∀ m ∈ (split t fs).annotated, P m.field) ↔ ∀ f ∈ fs, f.IsAnnotated t → P f := by
  constructor
  · rintro h f hf ⟨r, hr⟩
    exact h (f.classified t r) (mem_annotated_split.2 ⟨f, hf, r, hr, rfl⟩)
  · rintro h m hm
    obtain ⟨f, hf, r, hr, rfl⟩ := mem_annotated_split.1 hm
    exact h f hf ⟨r, hr⟩

/-! ### Expansion -/

theorem refuse_eq_ok {problem : Option Diagnostic} {u : Unit} :
    refuse problem = .ok u ↔ problem = none := by
  cases problem <;> simp [refuse]

/-- **The expansion of a declaration** is the one of the split of its fields, if the declaration is
acceptable. -/
theorem Declaration.expand_eq_ok {d : Declaration} {c : Config} {e : Expansion} :
    d.expand c = .ok e ↔
      d.Acceptable (Entry.isRename ·) c ∧ e = d.expansionOf (.split c.markers d.fields) c := by
  have steps : d.expand c = .ok e ↔ d.violation? = none ∧
      (∀ f ∈ d.fields, (f.registered c.markers).length ≤ 1) ∧
      (Partition.split c.markers d.fields).violation? d c = none ∧
      e = d.expansionOf (.split c.markers d.fields) c := by
    unfold Declaration.expand Declaration.partition
    simp only [Outcome.bind_eq_ok, refuse_eq_ok, Partition.ofFields_eq_ok]
    constructor
    · rintro ⟨-, hd, p, ⟨hm, rfl⟩, -, hp, he⟩
      cases he
      exact ⟨hd, hm, hp, rfl⟩
    · rintro ⟨hd, hm, hp, rfl⟩
      exact ⟨(), hd, _, ⟨hm, rfl⟩, (), hp, rfl⟩
  rw [steps, violation?_eq_none, Partition.violation?_eq_none]
  simp only [storageClash?_eq_none, constructorClash?_eq_none, methodClash?_eq_none,
    renameClash?_eq_none, keyClash?_eq_none, Partition.keys_split]
  rw [Partition.forall_annotated_split (P := fun f => (f.name.name ≠ c.constructor.name ∧
    ∀ r, f.name.name ≠ conversionName r) ∧ ∀ a ∈ f.attributes, ¬ Renaming (Entry.isRename ·) a)]
  constructor
  · rintro ⟨⟨hkind, hnames⟩, hmarkers, ⟨hstorage, hconstructor, hmember, hkeys⟩, he⟩
    exact ⟨⟨hkind, hnames, hmarkers, hstorage, hconstructor, fun f hf ha => (hmember f hf ha).1,
      fun f hf ha => (hmember f hf ha).2, hkeys⟩, he⟩
  · rintro ⟨h, he⟩
    exact ⟨⟨h.kind, h.names⟩, h.markers, ⟨h.storage, h.constructor,
      fun f hf ha => ⟨h.methods f hf ha, h.attributes f hf ha⟩, h.keys⟩, he⟩

/-- **A declaration is expanded** if and only if it obeys all rules. -/
theorem Declaration.expand_iff_acceptable (d : Declaration) (c : Config) :
    (∃ e, d.expand c = .ok e) ↔ d.Acceptable (Entry.isRename ·) c := by
  constructor
  · rintro ⟨e, he⟩
    exact (expand_eq_ok.1 he).1
  · intro h
    exact ⟨_, expand_eq_ok.2 ⟨h, rfl⟩⟩

/-! ### A rename without a name -/

/-- Whether nothing follows the path of an entry. -/
def Grammar.Argument.isNone : Argument → Bool
  | .none => true
  | _ => false

/-- Whether an entry gives another name behind an equals sign or in delimiters. -/
def Grammar.Entry.IsFilledRename (x : Entry) : Prop := x.isRename ∧ x.argument.isNone = false

/-- The attribute `#[serde(rename)]`. -/
def bareRename : Attribute :=
  ⟨false, ⟨.ofNames false ["serde"], .list .paren .callSite .callSite [.ident (.plain "rename")],
    .callSite⟩⟩

theorem isRename_bareRename : bareRename.entries?.any fun es => es.any Entry.isRename := by
  decide +kernel

theorem isNone_bareRename :
    bareRename.entries?.all fun es => es.all fun x => x.argument.isNone := by
  decide +kernel

/-- A header with this attribute. -/
def renamedHeader : Field :=
  ⟨.plain "a", Phrase.word "u8", [], [⟨.plain "header", .string "Y"⟩], [bareRename]⟩

/-- A struct of this header alone. -/
def renamedHeaderStruct : Declaration := ⟨.plain "S", [], .struct, [], [], [renamedHeader]⟩

/-- **A `rename` without a name is refused too**, although all rules hold if only the entries that
give a name count. -/
theorem not_expand_renamedHeaderStruct :
    renamedHeaderStruct.Acceptable Entry.IsFilledRename {} ∧
      ¬ ∃ e, renamedHeaderStruct.expand {} = .ok e := by
  have only : ∀ f ∈ renamedHeaderStruct.fields, f = renamedHeader := by
    simp [renamedHeaderStruct]
  constructor
  · constructor
    case kind => rfl
    case names => decide
    case markers => decide
    case storage =>
      intro f hf r
      rw [only f hf]
      cases r <;> decide
    case constructor =>
      intro r
      cases r <;> decide
    case methods =>
      intro f hf _
      rw [only f hf]
      exact ⟨by decide, fun r => by cases r <;> decide⟩
    case attributes =>
      rintro f hf _ a ha ⟨-, es, hes, x, hx, hr⟩
      rw [only f hf] at ha
      rw [List.mem_singleton.1 ha] at hes
      have empty := isNone_bareRename
      rw [hes, Option.all_some] at empty
      exact absurd (List.all_eq_true.1 empty x hx) (by simp [hr.2])
    case keys =>
      intro r
      cases r <;> decide
  · rintro ⟨e, he⟩
    have h := (Declaration.expand_eq_ok.1 he).1
    obtain ⟨es, hes, hany⟩ := (Option.any_eq_true _ _).1 isRename_bareRename
    obtain ⟨x, hx, hr⟩ := List.any_eq_true.1 hany
    exact h.attributes renamedHeader (List.mem_singleton.2 rfl) ⟨.header, by decide⟩ bareRename
      (List.mem_singleton.2 rfl) ⟨by decide, es, hes, x, hx, hr⟩

end RequestGroups
