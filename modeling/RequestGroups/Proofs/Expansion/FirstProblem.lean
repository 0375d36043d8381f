import RequestGroups.Proofs.Expansion.Acceptance
import RequestGroups.Proofs.Search

/-! # The first problem of a partition

`Partition.Blames` says which of all the problems of a partition is reported, with every name as it
is written and the place of what is to blame: first a field with the name of a storage field, then
the constructor, then a member of a group with a reserved name or with an attribute that renames it,
and then two members of a group with one key (`violation?_eq_some`).

* `IsFirstRepeat` is the first element of a list that has the key of an earlier one, together with
  the earlier one; `firstRepeat` finds these two (`firstRepeat_eq_some`);
* `ClassifiedField.Blames` is the first problem of one member. -/

namespace RequestGroups

open Source Grammar

/-! ### Repeats -/

/-- `b` is the first element of a list whose key occurs in front of it, and `a` is the only element
in front of it with this key. -/
def IsFirstRepeat (key : α → β) (l : List α) (a b : α) : Prop :=
  ∃ earlier after, l = earlier ++ b :: after ∧ (earlier.map key).Nodup ∧
    a ∈ earlier ∧ ∀ x ∈ earlier, key x = key b ↔ x = a

/-- The invariant of the search: the elements that were seen have distinct keys. -/
theorem firstRepeat_eq_some_of_seen [BEq β] [LawfulBEq β] {key : α → β} {seen l : List α}
    (hseen : (seen.map key).Nodup) {a b : α} : firstRepeat key seen l = some (a, b) ↔
      ∃ earlier after, l = earlier ++ b :: after ∧ ((seen ++ earlier).map key).Nodup ∧
        a ∈ seen ++ earlier ∧ key a = key b := by
  induction l generalizing seen with
  | nil => simp [firstRepeat]
  | cons c l ih =>
    unfold firstRepeat
    rcases h : seen.find? fun x => key x == key c with _ | s
    · have hc : ∀ x ∈ seen, key x ≠ key c := by simpa using h
      have hseen' : ((seen ++ [c]).map key).Nodup := by
        rw [List.map_append, List.nodup_append]
        refine ⟨hseen, List.nodup_singleton _, ?_⟩
        simpa using hc
      rw [ih hseen']
      constructor
      · rintro ⟨earlier, after, rfl, hn, ha, hk⟩
        rw [List.append_assoc] at hn ha
        exact ⟨c :: earlier, after, rfl, hn, ha, hk⟩
      · rintro ⟨earlier, after, hl, hn, ha, hk⟩
        rcases List.cons_eq_append_iff.1 hl with ⟨rfl, hl⟩ | ⟨rest, rfl, rfl⟩
        · cases hl
          exact absurd hk (hc a (by simpa using ha))
        · rw [← List.singleton_append, ← List.append_assoc] at hn ha
          exact ⟨rest, after, rfl, hn, ha, hk⟩
    · have hs := List.mem_of_find?_eq_some h
      have hk : key s = key c := by simpa using List.find?_some h
      constructor
      · intro he
        cases he
        exact ⟨[], l, rfl, by simpa using hseen, by simpa using hs, hk⟩
      · rintro ⟨earlier, after, hl, hn, ha, hab⟩
        rcases List.cons_eq_append_iff.1 hl with ⟨rfl, hl⟩ | ⟨rest, rfl, rfl⟩
        · cases hl
          rw [List.inj_on_of_nodup_map hseen (by simpa using ha) hs (hab.trans hk.symm)]
        · -- the key of `c` is seen, so no repeat behind `c` is the first one
          rw [List.map_append, List.nodup_append] at hn
          exact absurd hk (hn.2.2 _ (List.mem_map_of_mem hs) _ (by simp))

/-- **The first repeat** is found. -/
theorem firstRepeat_eq_some [BEq β] [LawfulBEq β] {key : α → β} {l : List α} {a b : α} :
    firstRepeat key [] l = some (a, b) ↔ IsFirstRepeat key l a b := by
  have nothing : (([] : List α).map key).Nodup := List.nodup_nil
  rw [firstRepeat_eq_some_of_seen nothing]
  constructor
  · rintro ⟨earlier, after, rfl, hn, ha, hk⟩
    refine ⟨earlier, after, rfl, hn, ha, fun x hx => ?_⟩
    constructor
    · intro hxb
      exact List.inj_on_of_nodup_map hn hx ha (hxb.trans hk.symm)
    · rintro rfl
      exact hk
  · rintro ⟨earlier, after, rfl, hn, ha, h⟩
    exact ⟨earlier, after, rfl, hn, ha, (h a ha).2 rfl⟩

/-! ### Names -/

/-- A field with the name of a storage field. -/
def Config.TakesStorage (c : Config) (f : Field) : Prop := ∃ r, f.name.name = (c.storage r).name

/-- What a name is reserved for: the constructor comes first. -/
inductive Config.Reserves (c : Config) (name : String) : Purpose → Prop
  | constructor : name = c.constructor.name → c.Reserves name .constructor
  | conversion (r : Role) : name ≠ c.constructor.name → name = conversionName r →
    c.Reserves name .conversionMethod

theorem isConversionName_eq_true {name : String} :
    isConversionName name = true ↔ ∃ r, name = conversionName r := by
  unfold isConversionName
  simp only [List.any_eq_true, Role.mem_all, true_and, beq_iff_eq]
  exact exists_congr fun r => eq_comm

theorem storageClash?_eq_some {c : Config} {f : Field} {x : Diagnostic} :
    storageClash? c f = some x ↔ c.TakesStorage f ∧
      x = ⟨.reservedField f.name.spelling .storageField, f.name.span⟩ := by
  have taken : (Role.all.any fun r => (c.storage r).name == f.name.name) = true ↔
      c.TakesStorage f := by
    simp only [List.any_eq_true, Role.mem_all, true_and, beq_iff_eq]
    exact exists_congr fun r => eq_comm
  rw [storageClash?, Option.ite_none_right_eq_some, taken, Option.some_inj, eq_comm (b := x)]

theorem constructorClash?_eq_some {c : Config} {x : Diagnostic} :
    constructorClash? c = some x ↔ (∃ r, c.constructor.name = conversionName r) ∧
      x = ⟨.reservedConstructor c.constructor.spelling .conversionMethod, c.constructor.span⟩ := by
  rw [constructorClash?, Option.ite_none_right_eq_some, isConversionName_eq_true, Option.some_inj,
    eq_comm (b := x)]

theorem generatedFor?_eq_some {c : Config} {name : String} {purpose : Purpose} :
    generatedFor? c name = some purpose ↔ c.Reserves name purpose := by
  unfold generatedFor?
  constructor
  · intro h
    split_ifs at h with hc hv
    · cases h
      exact .constructor (by simpa using hc)
    · cases h
      obtain ⟨r, hr⟩ := isConversionName_eq_true.1 hv
      exact .conversion r (by simpa using hc) hr
  · rintro (hc | ⟨r, hc, hr⟩)
    · simp [hc]
    · simp [hc, isConversionName_eq_true.2 ⟨r, hr⟩]

/-! ### Members of groups -/

/-- A member of a group with a problem of its own. -/
def ClassifiedField.Offends (c : Config) (m : ClassifiedField) : Prop :=
  (∃ purpose, c.Reserves m.field.name.name purpose) ∨
    ∃ a ∈ m.field.attributes, Renaming (Entry.isRename ·) a

/-- **The first problem of a member of a group**: a reserved name, or else the first entry that
renames the member in its first attribute with such an entry. -/
inductive ClassifiedField.Blames (c : Config) (m : ClassifiedField) : Diagnostic → Prop
  | name {purpose : Purpose} : c.Reserves m.field.name.name purpose →
    m.Blames c ⟨.reservedField m.field.name.spelling purpose, m.field.name.span⟩
  | rename {a : Attribute} {es : List Entry} {e : Entry} :
    (∀ purpose, ¬ c.Reserves m.field.name.name purpose) →
    IsFirst (Renaming (Entry.isRename ·)) m.field.attributes a → a.entries? = some es →
    IsFirst (·.isRename) es e →
    m.Blames c ⟨.conflictingRename m.field.name.spelling m.tag (e.stringValue?.getD m.key), e.span⟩

theorem methodClash?_eq_some {c : Config} {m : ClassifiedField} {x : Diagnostic} :
    methodClash? c m = some x ↔ ∃ purpose, c.Reserves m.field.name.name purpose ∧
      x = ⟨.reservedField m.field.name.spelling purpose, m.field.name.span⟩ := by
  unfold methodClash?
  rw [Option.map_eq_some_iff]
  exact exists_congr fun purpose => and_congr generatedFor?_eq_some eq_comm

theorem methodClash?_eq_none_iff {c : Config} {m : ClassifiedField} :
    methodClash? c m = none ↔ ∀ purpose, ¬ c.Reserves m.field.name.name purpose := by
  unfold methodClash?
  rw [Option.map_eq_none_iff, Option.eq_none_iff_forall_ne_some]
  exact forall_congr' fun purpose => not_congr generatedFor?_eq_some

theorem renameEntry?_eq_some {a : Attribute} {e : Entry} : renameEntry? a = some e ↔
    a.path.isName "serde" ∧ ∃ es, a.entries? = some es ∧ IsFirst (·.isRename) es e := by
  unfold renameEntry?
  rw [Option.ite_none_right_eq_some, Option.bind_eq_some_iff]
  simp only [find?_eq_some_iff_isFirst]

theorem renameClash?_eq_some {m : ClassifiedField} {x : Diagnostic} :
    renameClash? m = some x ↔ ∃ a es e, IsFirst (Renaming (Entry.isRename ·)) m.field.attributes a ∧
      a.entries? = some es ∧ IsFirst (·.isRename) es e ∧
      x = ⟨.conflictingRename m.field.name.spelling m.tag (e.stringValue?.getD m.key), e.span⟩ := by
  have some_iff : (fun a => renameEntry? a ≠ none) = Renaming (Entry.isRename ·) := by
    funext a
    exact propext ((not_congr renameEntry?_eq_none).trans not_not)
  rw [renameClash?, Option.map_eq_some_iff]
  simp only [findSome?_eq_some, some_iff, renameEntry?_eq_some]
  constructor
  · rintro ⟨e, ⟨a, ha, -, es, hes, he⟩, rfl⟩
    exact ⟨a, es, e, ha, hes, he, rfl⟩
  · rintro ⟨a, es, e, ha, hes, he, rfl⟩
    exact ⟨e, ⟨a, ha, ha.holds.1, es, hes, he⟩, rfl⟩

theorem ClassifiedField.blames_iff {c : Config} {m : ClassifiedField} {x : Diagnostic} :
    (methodClash? c m <|> renameClash? m) = some x ↔ m.Blames c x := by
  rw [orElse_eq_some, methodClash?_eq_some, methodClash?_eq_none_iff, renameClash?_eq_some]
  constructor
  · rintro (⟨purpose, h, rfl⟩ | ⟨h, a, es, e, ha, hes, he, rfl⟩)
    · exact .name h
    · exact .rename h ha hes he
  · rintro (h | ⟨h, ha, hes, he⟩)
    · exact Or.inl ⟨_, h, rfl⟩
    · exact Or.inr ⟨h, _, _, _, ha, hes, he, rfl⟩

theorem ClassifiedField.offends_iff {c : Config} {m : ClassifiedField} :
    (methodClash? c m <|> renameClash? m) ≠ none ↔ m.Offends c := by
  rw [ne_eq, orElse_eq_none, methodClash?_eq_none_iff, renameClash?_eq_none]
  rw [not_and_or, not_forall, not_forall]
  simp only [not_forall, not_not, ClassifiedField.Offends, exists_prop]

/-! ### The whole partition -/

/-- **The first problem of a partition** of a declaration. Each problem is reported only if there is
none of those above it. -/
inductive Partition.Blames (p : Partition) (d : Declaration) (c : Config) : Diagnostic → Prop
  | storage {f : Field} : IsFirst c.TakesStorage d.fields f →
    p.Blames d c ⟨.reservedField f.name.spelling .storageField, f.name.span⟩
  | constructor {r : Role} : (∀ f ∈ d.fields, ¬ c.TakesStorage f) →
    c.constructor.name = conversionName r →
    p.Blames d c
      ⟨.reservedConstructor c.constructor.spelling .conversionMethod, c.constructor.span⟩
  | member {m : ClassifiedField} {x : Diagnostic} : (∀ f ∈ d.fields, ¬ c.TakesStorage f) →
    (∀ r, c.constructor.name ≠ conversionName r) →
    IsFirst (·.Offends c) (p.headers ++ p.body) m → m.Blames c x → p.Blames d c x
  | key {r : Role} {first second : ClassifiedField} : (∀ f ∈ d.fields, ¬ c.TakesStorage f) →
    (∀ r, c.constructor.name ≠ conversionName r) →
    (∀ m ∈ p.headers ++ p.body, ¬ m.Offends c) →
    -- a repeat in the body is reported only if there is none in the headers
    (r = .body → (p.headers.map (·.key)).Nodup) → IsFirstRepeat (·.key) (p.fields r) first second →
    p.Blames d c ⟨.duplicateKey r second.key first.field.name.spelling second.field.name.spelling,
      second.field.name.span⟩

variable {p : Partition} {d : Declaration} {c : Config} {x : Diagnostic}

theorem findSome?_storageClash?_eq_some : d.fields.findSome? (storageClash? c) = some x ↔
    ∃ f, IsFirst c.TakesStorage d.fields f ∧
      x = ⟨.reservedField f.name.spelling .storageField, f.name.span⟩ := by
  have some_iff : (fun f => storageClash? c f ≠ none) = c.TakesStorage := by
    funext f
    rw [ne_eq, storageClash?_eq_none, not_forall]
    simp only [not_not, Config.TakesStorage]
  rw [findSome?_eq_some, some_iff]
  refine exists_congr fun f => and_congr_right fun hf => ?_
  rw [storageClash?_eq_some]
  exact and_iff_right hf.holds

theorem findSome?_member_eq_some :
    p.annotated.findSome? (fun m => methodClash? c m <|> renameClash? m) = some x ↔
      ∃ m, IsFirst (·.Offends c) (p.headers ++ p.body) m ∧ m.Blames c x := by
  rw [findSome?_eq_some]
  simp only [ClassifiedField.offends_iff, ClassifiedField.blames_iff]
  rfl

theorem keyClash?_eq_some {r : Role} : keyClash? p r = some x ↔
    ∃ first second, IsFirstRepeat (·.key) (p.fields r) first second ∧
      x = ⟨.duplicateKey r second.key first.field.name.spelling second.field.name.spelling,
        second.field.name.span⟩ := by
  unfold keyClash?
  rw [Option.map_eq_some_iff]
  constructor
  · rintro ⟨⟨first, second⟩, h, rfl⟩
    exact ⟨first, second, firstRepeat_eq_some.1 h, rfl⟩
  · rintro ⟨first, second, h, rfl⟩
    exact ⟨(first, second), firstRepeat_eq_some.2 h, rfl⟩

theorem findSome?_keyClash?_eq_some : Role.all.findSome? (keyClash? p) = some x ↔
    ∃ r, (r = .body → (p.headers.map (·.key)).Nodup) ∧ keyClash? p r = some x := by
  have headers : keyClash? p .header = none ↔ (p.headers.map (·.key)).Nodup := keyClash?_eq_none
  rw [← headers, Role.all, List.findSome?_cons, List.findSome?_singleton]
  rcases h : keyClash? p .header with _ | y
  · constructor
    · intro hx
      exact ⟨.body, fun _ => rfl, hx⟩
    · rintro ⟨_ | _, -, hx⟩
      · rw [h] at hx
        cases hx
      · exact hx
  · constructor
    · intro hx
      exact ⟨.header, nofun, h.trans hx⟩
    · rintro ⟨_ | _, free, hx⟩
      · exact h.symm.trans hx
      · cases free rfl

/-- **The problem that is reported** for a partition is the first one. -/
theorem Partition.violation?_eq_some : p.violation? d c = some x ↔ p.Blames d c x := by
  have storage : d.fields.findSome? (storageClash? c) = none ↔
      ∀ f ∈ d.fields, ¬ c.TakesStorage f := by
    rw [List.findSome?_eq_none_iff]
    simp only [storageClash?_eq_none, Config.TakesStorage, not_exists, ne_eq]
  have members : p.annotated.findSome? (fun m => methodClash? c m <|> renameClash? m) = none ↔
      ∀ m ∈ p.headers ++ p.body, ¬ m.Offends c := by
    rw [List.findSome?_eq_none_iff]
    exact forall₂_congr fun m _ => not_iff_comm.1 ClassifiedField.offends_iff |>.symm
  rw [Partition.violation?, orElse_eq_some, orElse_eq_some, orElse_eq_some,
    storage, members, constructorClash?_eq_none, findSome?_storageClash?_eq_some,
    constructorClash?_eq_some, findSome?_member_eq_some, findSome?_keyClash?_eq_some]
  simp only [keyClash?_eq_some]
  constructor
  · rintro (⟨f, hf, rfl⟩ | ⟨free, ⟨⟨r, hr⟩, rfl⟩ | ⟨apart, ⟨m, hm, hx⟩ |
      ⟨own, r, body, a, b, h, rfl⟩⟩⟩)
    · exact .storage hf
    · exact .constructor free hr
    · exact .member free apart hm hx
    · exact .key free apart own body h
  · rintro (hf | ⟨free, hr⟩ | ⟨free, apart, hm, hx⟩ | ⟨free, apart, own, body, h⟩)
    · exact Or.inl ⟨_, hf, rfl⟩
    · exact Or.inr ⟨free, Or.inl ⟨⟨_, hr⟩, rfl⟩⟩
    · exact Or.inr ⟨free, Or.inr ⟨apart, Or.inl ⟨_, hm, hx⟩⟩⟩
    · exact Or.inr ⟨free, Or.inr ⟨apart, Or.inr ⟨own, _, body, _, _, h, rfl⟩⟩⟩

end RequestGroups
