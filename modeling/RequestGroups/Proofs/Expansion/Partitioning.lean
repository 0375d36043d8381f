import RequestGroups.Proofs.Expansion.Split
import RequestGroups.Proofs.Search
import Mathlib.Data.List.Perm.Basic

/-! # The partition of a declaration

`Declaration.SortsFields` says in full what the partition of a declaration is: which field it
refuses and why, and where every other field goes (`sortsFields_partition`).

* `Field.registeredMarkers` are the markers of a field that count, whatever stands between them;
* `Partition.ofFields_eq_error`: the first field with two of them is refused;
* `Partition.Sorts` says that the lists of a partition are the given fields sorted by their
  registered markers, each field once and in the given order. -/

namespace RequestGroups

open Source Grammar

/-! ### Registered markers -/

theorem MarkerArgument.key?_eq_some {a : MarkerArgument} {key : String} :
    a.key? = some key ↔ a = .string key := by
  cases a <;> simp [key?]

namespace Field

variable {t : MarkerTable} {f : Field}

/-- The markers of a field whose tags are registered, in the order in which they are written. -/
def registeredMarkers (t : MarkerTable) (f : Field) : List Marker :=
  f.markers.filter fun m => (t.roleOf m.tag).isSome

theorem map_fst_registered : (f.registered t).map (·.1) = f.registeredMarkers t := by
  unfold registered registeredMarkers
  rw [List.map_filterMap, ← List.filterMap_eq_filter]
  refine List.filterMap_congr fun m _ => ?_
  rcases h : t.roleOf m.tag with _ | r
  · simp [Option.guard, h]
  · simp [Option.guard, h]

theorem length_registered : (f.registered t).length = (f.registeredMarkers t).length := by
  rw [← map_fst_registered, List.length_map]

theorem mem_registered {m : Marker} {r : Role} :
    (m, r) ∈ f.registered t ↔ m ∈ f.markers ∧ t.roleOf m.tag = some r := by
  simp [registered]

theorem registered_eq_singleton {m : Marker} {r : Role} :
    f.registered t = [(m, r)] ↔ f.registeredMarkers t = [m] ∧ t.roleOf m.tag = some r := by
  rw [← map_fst_registered]
  constructor
  · intro h
    exact ⟨by rw [h]; rfl, (mem_registered.1 (h ▸ List.mem_singleton.2 rfl)).2⟩
  · rintro ⟨h, hr⟩
    obtain ⟨⟨n, s⟩, hn, rfl⟩ := List.map_eq_singleton_iff.1 h
    have hs := (mem_registered.1 (hn ▸ List.mem_singleton.2 rfl)).2
    rw [hn, ← Option.some.inj (hr.symm.trans hs)]

theorem role?_eq_some (h : (f.registered t).length ≤ 1) {r : Role} :
    f.role? t = some r ↔ ∃ m, f.registered t = [(m, r)] := by
  unfold role?
  rcases hm : f.registered t with _ | ⟨⟨m, s⟩, _ | ⟨n, rest⟩⟩
  · simp
  · simp
  · simp [hm] at h

theorem role?_eq_none : f.role? t = none ↔ ∀ m ∈ f.markers, t.roleOf m.tag = none := by
  unfold role? registered
  simp

theorem explicitKey?_eq_some {m : Marker} {r : Role} (h : f.registered t = [(m, r)])
    {key : String} : f.explicitKey? t = some key ↔ m.argument = .string key := by
  rw [explicitKey?, h]
  exact MarkerArgument.key?_eq_some

/-- A field with at most one registered marker is no member of both groups. -/
theorem classify_eq_none_or (h : (f.registeredMarkers t).length ≤ 1) :
    f.classify .header t = none ∨ f.classify .body t = none := by
  rw [← length_registered] at h
  rw [classify_eq h, classify_eq h]
  rcases f.role? t with _ | _ | _
  · exact Or.inl rfl
  · exact Or.inr rfl
  · exact Or.inl rfl

end Field

/-! ### The refused field -/

/-- How a field with two registered markers is refused. -/
def Field.refusal (f : Field) (first second : Marker) : Diagnostic :=
  ⟨.conflictingRole f.name.spelling first.tag.spelling second.tag.spelling, second.tag.span⟩

namespace Partition

theorem place_eq_error_iff {t : MarkerTable} {f : Field} {x : Diagnostic} :
    place t f = .error x ↔
      ∃ m n rest, f.registeredMarkers t = m :: n :: rest ∧ x = f.refusal m n := by
  rw [← Field.map_fst_registered]
  rcases h : f.registered t with _ | ⟨m, _ | ⟨n, rest⟩⟩
  · simp [place_eq_put (f := f) (t := t) (by simp [h])]
  · simp [place_eq_put (f := f) (t := t) (by simp [h])]
  · rw [place_eq_error h]
    constructor
    · intro hx
      cases hx
      exact ⟨m.1, n.1, rest.map (·.1), rfl, rfl⟩
    · rintro ⟨_, _, _, hm, rfl⟩
      cases hm
      rfl

theorem place_eq_ok_iff {t : MarkerTable} {f : Field} :
    (∃ g, place t f = .ok g) ↔ ¬ 2 ≤ (f.registeredMarkers t).length := by
  simp only [place_eq_ok, Field.length_registered, exists_and_left, exists_eq, and_true]
  omega

/-- Nothing is asked of the fields behind a refused one. -/
theorem ofFields_cons_eq_error {t : MarkerTable} {f : Field} {fs : List Field} {x : Diagnostic} :
    ofFields t (f :: fs) = .error x ↔
      place t f = .error x ∨ ¬ 2 ≤ (f.registeredMarkers t).length ∧ ofFields t fs = .error x := by
  rw [ofFields, Outcome.bind_eq_error, ← place_eq_ok_iff]
  refine or_congr_right ?_
  constructor
  · rintro ⟨g, hg, h⟩
    rcases Outcome.bind_eq_error.1 h with h | ⟨q, -, h⟩
    · exact ⟨⟨g, hg⟩, h⟩
    · cases h
  · rintro ⟨⟨g, hg⟩, h⟩
    exact ⟨g, hg, Outcome.bind_eq_error.2 (Or.inl h)⟩

theorem ofFields_eq_error {t : MarkerTable} {fs : List Field} {x : Diagnostic} :
    ofFields t fs = .error x ↔
      ∃ f, IsFirst (fun f => 2 ≤ (f.registeredMarkers t).length) fs f ∧ place t f = .error x := by
  induction fs with
  | nil => simp [ofFields, not_isFirst_nil]
  | cons f fs ih =>
    rw [ofFields_cons_eq_error, ih]
    simp only [isFirst_cons]
    constructor
    · rintro (h | ⟨few, g, hg, h⟩)
      · have two : 2 ≤ (f.registeredMarkers t).length := by
          obtain ⟨m, n, rest, hm, -⟩ := place_eq_error_iff.1 h
          simp [hm]
        exact ⟨f, Or.inl ⟨two, rfl⟩, h⟩
      · exact ⟨g, Or.inr ⟨few, hg⟩, h⟩
    · rintro ⟨g, ⟨-, rfl⟩ | ⟨few, hg⟩, h⟩
      · exact Or.inl h
      · exact Or.inr ⟨few, g, hg, h⟩

/-! ### The sorted fields -/

/-- The lists of a partition are the given fields, sorted by their registered markers. -/
structure Sorts (p : Partition) (t : MarkerTable) (fs : List Field) : Prop where
  /-- Every field is in one of the lists, as often as it is given. -/
  once : (p.annotated.map (·.field) ++ p.plain).Perm fs
  groupOrder : ∀ r, ((p.fields r).map (·.field)).Sublist fs
  plainOrder : p.plain.Sublist fs
  /-- The members of a group are the fields whose only registered marker has its role, with the
  key that this marker gives. -/
  members : ∀ r m, m ∈ p.fields r ↔ m.field ∈ fs ∧ m.role = r ∧
    ∃ n, m.field.registeredMarkers t = [n] ∧ t.roleOf n.tag = some r ∧
      ∀ key, m.explicitKey = some key ↔ n.argument = .string key
  plain : ∀ f, f ∈ p.plain ↔ f ∈ fs ∧ ∀ n ∈ f.markers, t.roleOf n.tag = none

theorem map_field_fields_split (t : MarkerTable) (fs : List Field) (r : Role) :
    ((split t fs).fields r).map (·.field) = group t fs r := by
  rw [fields_split, List.map_map]
  exact List.map_id _

theorem perm_groups (t : MarkerTable) (fs : List Field) :
    (group t fs .header ++ (group t fs .body ++ plainOf t fs)).Perm fs := by
  induction fs with
  | nil => exact List.Perm.nil
  | cons f fs ih =>
    unfold group plainOf at ih ⊢
    rcases h : f.role? t with _ | _ | _
    · simp only [List.filter_cons, h, reduceCtorEq, decide_false, decide_true, if_true,
        Bool.false_eq_true, if_false]
      rw [← List.append_assoc]
      exact List.perm_middle.trans ((List.append_assoc .. ▸ ih).cons f)
    · simp only [List.filter_cons, h, reduceCtorEq, decide_false, decide_true, if_true,
        Bool.false_eq_true, if_false, Option.some.injEq]
      exact ih.cons f
    · simp only [List.filter_cons, h, reduceCtorEq, decide_false, decide_true, if_true,
        Bool.false_eq_true, if_false, Option.some.injEq]
      exact List.perm_middle.trans (ih.cons f)

/-- The split sorts fields, if none of them has two registered markers. -/
theorem sorts_split {t : MarkerTable} {fs : List Field}
    (h : ∀ f ∈ fs, (f.registered t).length ≤ 1) : (split t fs).Sorts t fs where
  once := by
    have lists : (split t fs).annotated.map (·.field) = group t fs .header ++ group t fs .body := by
      rw [annotated, List.map_append]
      exact congrArg₂ (· ++ ·) (map_field_fields_split t fs .header)
        (map_field_fields_split t fs .body)
    rw [lists, List.append_assoc]
    exact perm_groups t fs
  groupOrder r := by
    rw [map_field_fields_split]
    exact List.filter_sublist
  plainOrder := List.filter_sublist
  members r m := by
    rw [fields_split, List.mem_map]
    constructor
    · rintro ⟨f, hf, rfl⟩
      obtain ⟨hfs, hr⟩ := mem_group.1 hf
      obtain ⟨n, hn⟩ := (Field.role?_eq_some (h f hfs)).1 hr
      obtain ⟨only, role⟩ := Field.registered_eq_singleton.1 hn
      exact ⟨hfs, rfl, n, only, role, fun key => Field.explicitKey?_eq_some hn⟩
    · rintro ⟨hfs, rfl, n, only, role, hkey⟩
      have hn := Field.registered_eq_singleton.2 ⟨only, role⟩
      have key : m.field.explicitKey? t = m.explicitKey :=
        Option.ext fun key => (Field.explicitKey?_eq_some hn).trans (hkey key).symm
      refine ⟨m.field, mem_group.2 ⟨hfs, (Field.role?_eq_some (h _ hfs)).2 ⟨n, hn⟩⟩, ?_⟩
      rw [Field.classified, key]
  plain f := by
    rw [← Field.role?_eq_none]
    exact mem_plainOf

end Partition

/-! ### The partition -/

/-- **What the partition of a declaration is.** -/
structure Declaration.SortsFields (d : Declaration) (t : MarkerTable) : Prop where
  fails : (∃ x, d.partition t = .error x) ↔
    ∃ f ∈ d.fields, 2 ≤ (f.registeredMarkers t).length
  /-- The first field with two registered markers is to blame, and the second of them. -/
  blames : ∀ x, d.partition t = .error x →
    ∃ f, IsFirst (fun f => 2 ≤ (f.registeredMarkers t).length) d.fields f ∧
      ∃ m n rest, f.registeredMarkers t = m :: n :: rest ∧ x = f.refusal m n
  /-- No other field is found in both groups, so it is never refused for that. -/
  oneGroup : ∀ f : Field, (f.registeredMarkers t).length ≤ 1 →
    f.classify .header t = none ∨ f.classify .body t = none
  sorts : ∀ p, d.partition t = .ok p → p.Sorts t d.fields

/-- **The partition of a declaration** refuses the first field with two registered markers, and
sorts the fields by their registered markers if there is no such field. -/
theorem Declaration.sortsFields_partition (d : Declaration) (t : MarkerTable) :
    d.SortsFields t where
  fails := by
    constructor
    · rintro ⟨x, hx⟩
      obtain ⟨f, hf, -⟩ := Partition.ofFields_eq_error.1 hx
      exact ⟨f, hf.mem, hf.holds⟩
    · rintro ⟨f, hf, two⟩
      rcases h : d.partition t with x | p
      · exact ⟨x, rfl⟩
      · have := (Partition.ofFields_eq_ok.1 h).1 f hf
        rw [Field.length_registered] at this
        omega
  blames x hx := by
    obtain ⟨f, hf, placed⟩ := Partition.ofFields_eq_error.1 hx
    exact ⟨f, hf, Partition.place_eq_error_iff.1 placed⟩
  oneGroup f := Field.classify_eq_none_or
  sorts p hp := by
    obtain ⟨few, rfl⟩ := Partition.ofFields_eq_ok.1 hp
    exact Partition.sorts_split few

end RequestGroups
