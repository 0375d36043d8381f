import RequestGroups.Expansion.Partition
import RequestGroups.Proofs.Outcome
import Mathlib.Data.List.Basic

/-! # The split of fields by role

The first registered marker of a field gives its role and its explicit key. `Partition.split` sorts
fields by these roles and never fails; the partition of fields is this split wherever no field has
two registered markers (`ofFields_eq_ok`).

* `Field.role?`, `Field.explicitKey?` and `Field.keyIn` are what the markers of a field say;
* `group` lists the fields of a group, `Field.classified` makes a member of each of them. -/

namespace RequestGroups

open Source Grammar

/-! ### What the markers of a field say -/

namespace Field

/-- The role that the markers of a field give it. -/
def role? (f : Field) (t : MarkerTable) : Option Role := (f.registered t).head?.map (·.2)

/-- The key that the markers of a field give it. -/
def explicitKey? (f : Field) (t : MarkerTable) : Option String :=
  (f.registered t).head?.bind (·.1.argument.key?)

/-- The key of a field in its group: the key of its marker, or its name. -/
def keyIn (f : Field) (t : MarkerTable) : String := (f.explicitKey? t).getD f.name.name

/-- Whether a field belongs to a group. -/
def IsAnnotated (f : Field) (t : MarkerTable) : Prop := ∃ r, f.role? t = some r

/-- The field as a member of a group. -/
def classified (t : MarkerTable) (r : Role) (f : Field) : ClassifiedField :=
  ⟨f, r, f.explicitKey? t⟩

@[simp] theorem field_classified (t : MarkerTable) (r : Role) (f : Field) :
    (f.classified t r).field = f := rfl

@[simp] theorem role_classified (t : MarkerTable) (r : Role) (f : Field) :
    (f.classified t r).role = r := rfl

@[simp] theorem key_classified (t : MarkerTable) (r : Role) (f : Field) :
    (f.classified t r).key = f.keyIn t := rfl

/-- The first marker for a role is the first registered marker that has this role. -/
theorem classify_eq_map (f : Field) (r : Role) (t : MarkerTable) :
    f.classify r t = ((f.registered t).find? (·.2 = r)).map
      fun m => ⟨f, r, m.1.argument.key?⟩ := by
  unfold classify registered
  induction f.markers with
  | nil => rfl
  | cons m rest ih =>
    rcases h : t.roleOf m.tag with _ | s
    · rw [List.find?_cons_of_neg (by simp [h]), List.filterMap_cons_none (by simp [h]), ih]
    · rw [List.filterMap_cons_some (by rw [h, Option.map_some])]
      by_cases hs : s = r
      · rw [List.find?_cons_of_pos (by simp [h, hs]), List.find?_cons_of_pos (by simp [hs])]
        rfl
      · rw [List.find?_cons_of_neg (by simp [h, hs]), List.find?_cons_of_neg (by simp [hs]), ih]

/-- A field with at most one registered marker has a marker for its role only. -/
theorem classify_eq {t : MarkerTable} {f : Field} (h : (f.registered t).length ≤ 1) (r : Role) :
    f.classify r t = if f.role? t = some r then some (f.classified t r) else none := by
  rw [classify_eq_map, role?, classified, explicitKey?]
  rcases hm : f.registered t with _ | ⟨⟨m, s⟩, _ | ⟨n, rest⟩⟩
  · rfl
  · by_cases hs : s = r
    · simp [hs]
    · simp [hs]
  · simp [hm] at h

end Field

/-- The fields of a group, in their order. -/
def group (t : MarkerTable) (fs : List Field) (r : Role) : List Field :=
  fs.filter fun f => f.role? t = some r

/-- The fields of no group, in their order. -/
def plainOf (t : MarkerTable) (fs : List Field) : List Field := fs.filter fun f => f.role? t = none

theorem mem_group {t : MarkerTable} {fs : List Field} {r : Role} {f : Field} :
    f ∈ group t fs r ↔ f ∈ fs ∧ f.role? t = some r := by
  simp [group]

theorem mem_plainOf {t : MarkerTable} {fs : List Field} {f : Field} :
    f ∈ plainOf t fs ↔ f ∈ fs ∧ f.role? t = none := by
  simp [plainOf]

/-! ### The split -/

namespace Partition

/-- The fields sorted by their roles. -/
def split (t : MarkerTable) (fs : List Field) : Partition where
  headers := (group t fs .header).map (Field.classified t .header)
  body := (group t fs .body).map (Field.classified t .body)
  plain := plainOf t fs

/-- How a field is put in front of the others, if at most one of its markers is registered. -/
def put (t : MarkerTable) (f : Field) : Partition → Partition :=
  match f.role? t with
  | none => consPlain f
  | some r => consGroup (f.classified t r)

theorem fields_split (t : MarkerTable) (fs : List Field) (r : Role) :
    (split t fs).fields r = (group t fs r).map (Field.classified t r) := by
  cases r <;> rfl

theorem mem_annotated_split {t : MarkerTable} {fs : List Field} {m : ClassifiedField} :
    m ∈ (split t fs).annotated ↔ ∃ f ∈ fs, ∃ r, f.role? t = some r ∧ f.classified t r = m := by
  simp only [annotated, split, List.mem_append, List.mem_map, mem_group]
  constructor
  · rintro (⟨f, ⟨hf, hr⟩, rfl⟩ | ⟨f, ⟨hf, hr⟩, rfl⟩)
    · exact ⟨f, hf, .header, hr, rfl⟩
    · exact ⟨f, hf, .body, hr, rfl⟩
  · rintro ⟨f, hf, r, hr, rfl⟩
    cases r with
    | header => exact Or.inl ⟨f, ⟨hf, hr⟩, rfl⟩
    | body => exact Or.inr ⟨f, ⟨hf, hr⟩, rfl⟩

theorem split_cons (t : MarkerTable) (f : Field) (fs : List Field) :
    split t (f :: fs) = put t f (split t fs) := by
  unfold put
  rcases h : f.role? t with _ | r
  · simp [split, group, plainOf, h, consPlain]
  · cases r <;> simp [split, group, plainOf, h, consGroup]

/-- A field with two registered markers is refused. -/
theorem place_eq_error {t : MarkerTable} {f : Field} {m n : Marker × Role}
    {rest : List (Marker × Role)} (h : f.registered t = m :: n :: rest) :
    place t f = .error
      ⟨.conflictingRole f.name.spelling m.1.tag.spelling n.1.tag.spelling, n.1.tag.span⟩ := by
  unfold place
  rw [h]

/-- Any other field is placed by its role. -/
theorem place_eq_put {t : MarkerTable} {f : Field} (h : (f.registered t).length ≤ 1) :
    place t f = .ok (put t f) := by
  unfold place
  split
  · next hr => simp [hr] at h
  · rw [Field.classify_eq h, Field.classify_eq h, put]
    rcases f.role? t with _ | _ | _ <;> rfl

theorem place_eq_ok {t : MarkerTable} {f : Field} {g : Partition → Partition} :
    place t f = .ok g ↔ (f.registered t).length ≤ 1 ∧ g = put t f := by
  by_cases h : (f.registered t).length ≤ 1
  · simp [place_eq_put h, h, eq_comm]
  · obtain ⟨m, n, rest, hr⟩ : ∃ m n rest, f.registered t = m :: n :: rest := by
      match hr : f.registered t with
      | [] | [m] => simp [hr] at h
      | m :: n :: rest => exact ⟨m, n, rest, rfl⟩
    simp [place_eq_error hr, h]

/-- **The partition** is the split by role, if no field has two registered markers. -/
theorem ofFields_eq_ok {t : MarkerTable} {fs : List Field} {p : Partition} :
    ofFields t fs = .ok p ↔ (∀ f ∈ fs, (f.registered t).length ≤ 1) ∧ p = split t fs := by
  induction fs generalizing p with
  | nil => simp [ofFields, split, group, plainOf, empty, eq_comm]
  | cons f fs ih =>
    rw [ofFields, Outcome.bind_eq_ok, split_cons]
    constructor
    · rintro ⟨g, hg, h⟩
      obtain ⟨q, hq, h⟩ := Outcome.bind_eq_ok.1 h
      obtain ⟨hf, rfl⟩ := place_eq_ok.1 hg
      obtain ⟨hfs, rfl⟩ := ih.1 hq
      cases h
      exact ⟨List.forall_mem_cons.2 ⟨hf, hfs⟩, rfl⟩
    · rintro ⟨h, rfl⟩
      obtain ⟨hf, hfs⟩ := List.forall_mem_cons.1 h
      refine ⟨_, place_eq_ok.2 ⟨hf, rfl⟩, ?_⟩
      rw [ih.2 ⟨hfs, rfl⟩]
      rfl

end Partition

end RequestGroups
