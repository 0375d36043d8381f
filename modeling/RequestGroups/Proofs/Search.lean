import Mathlib.Data.List.Forall2
import Mathlib.Data.List.Nodup

/-! # Searches

`IsFirst P l a` says that `a` is the first element of `l` with the property `P`. This is what a
search from the left finds (`findSome?_eq_some`, `find?_eq_some_iff_isFirst`).

* `find?_eq_some`, `find?_filter_of_one`, `find?_filterMap_of_one` and `filter_eq_toList_find?`: a
  search finds the only element that it can find;
* `mapM_eq_some`, `mapM_eq_some_map`, `mapM_zip_eq_some`: a step that has an answer for every
  element gives the list of all answers;
* `filterMap_eq_map_filter`: a step that has an answer for some elements maps these;
* `exists_map_eq`: a list without repetition is mapped to any list of its length;
* `exists_eq_map`, `exists_forall₂`, `forall₂_filterMap`, `forall₂_iff_map_eq` and
  `filterMap_eq_of_forall₂` are about lists that are related element by element. -/

namespace RequestGroups

variable {α : Type u} {β : Type v}

/-! ### The first element with a property -/

/-- The first element of a list that has a property. -/
def IsFirst (P : α → Prop) (l : List α) (a : α) : Prop :=
  ∃ before after, l = before ++ a :: after ∧ P a ∧ ∀ b ∈ before, ¬ P b

theorem not_isFirst_nil {P : α → Prop} {a : α} : ¬ IsFirst P [] a := by
  rintro ⟨before, after, h, -⟩
  simp at h

theorem isFirst_cons {P : α → Prop} {l : List α} {a b : α} :
    IsFirst P (a :: l) b ↔ P a ∧ b = a ∨ ¬ P a ∧ IsFirst P l b := by
  constructor
  · rintro ⟨before, after, h, hb, hbefore⟩
    rcases List.cons_eq_append_iff.1 h with ⟨rfl, h⟩ | ⟨rest, rfl, rfl⟩
    · cases h
      exact Or.inl ⟨hb, rfl⟩
    · obtain ⟨ha, hrest⟩ := List.forall_mem_cons.1 hbefore
      exact Or.inr ⟨ha, rest, after, rfl, hb, hrest⟩
  · rintro (⟨ha, rfl⟩ | ⟨ha, before, after, rfl, hb, hbefore⟩)
    · exact ⟨[], l, rfl, ha, List.forall_mem_nil _⟩
    · exact ⟨a :: before, after, rfl, hb, List.forall_mem_cons.2 ⟨ha, hbefore⟩⟩

theorem IsFirst.mem {P : α → Prop} {l : List α} {a : α} (h : IsFirst P l a) : a ∈ l := by
  obtain ⟨before, after, rfl, -⟩ := h
  simp

theorem IsFirst.holds {P : α → Prop} {l : List α} {a : α} (h : IsFirst P l a) : P a := by
  obtain ⟨-, -, -, ha, -⟩ := h
  exact ha

/-- **A search from the left** answers for the first element that it has an answer for. -/
theorem findSome?_eq_some {f : α → Option β} {l : List α} {b : β} :
    l.findSome? f = some b ↔ ∃ a, IsFirst (fun a => f a ≠ none) l a ∧ f a = some b := by
  rw [List.findSome?_eq_some_iff]
  constructor
  · rintro ⟨before, a, after, rfl, ha, h⟩
    exact ⟨a, ⟨before, after, rfl, by simp [ha], by simpa using h⟩, ha⟩
  · rintro ⟨a, ⟨before, after, rfl, -, h⟩, ha⟩
    exact ⟨before, a, after, rfl, ha, by simpa using h⟩

theorem find?_eq_some_iff_isFirst {p : α → Bool} {l : List α} {a : α} :
    l.find? p = some a ↔ IsFirst (p ·) l a := by
  rw [List.find?_eq_some_iff_append]
  constructor
  · rintro ⟨ha, before, after, rfl, h⟩
    exact ⟨before, after, rfl, ha, by simpa using h⟩
  · rintro ⟨before, after, rfl, ha, h⟩
    exact ⟨ha, before, after, rfl, by simpa using h⟩

/-- An alternative is asked for only if there is no answer in front of it. -/
theorem orElse_eq_some {x y : Option β} {b : β} :
    (x <|> y) = some b ↔ x = some b ∨ x = none ∧ y = some b := by
  cases x <;> simp

theorem orElse_eq_none {x y : Option β} : (x <|> y) = none ↔ x = none ∧ y = none := by
  cases x <;> simp

theorem map_orElse (h : α → β) (x y : Option α) :
    (x <|> y).map h = (x.map h <|> y.map h) := by
  cases x <;> rfl

/-! ### Searches that have one answer -/

/-- **A search** for something that only one element is finds this element. -/
theorem find?_eq_some {p : α → Bool} {l : List α} {a : α} (ha : a ∈ l) (hp : p a)
    (only : ∀ b ∈ l, p b → b = a) : l.find? p = some a := by
  rcases h : l.find? p with _ | b
  · exact absurd hp (List.find?_eq_none.1 h a ha)
  · rw [only b (List.mem_of_find?_eq_some h) (List.find?_some h)]

/-- A search that only one element answers may be narrowed before or after it. -/
theorem find?_filter_of_one {p q : α → Bool} {l : List α}
    (one : ∀ a ∈ l, ∀ b ∈ l, p a → p b → a = b) :
    (l.filter q).find? p = (l.find? p).filter q := by
  rcases h : l.find? p with _ | a
  · exact List.find?_eq_none.2 fun b hb => List.find?_eq_none.1 h b (List.mem_filter.1 hb).1
  · have mem := List.mem_of_find?_eq_some h
    have only : ∀ b ∈ l.filter q, p b → b = a := fun b hb hp =>
      one b (List.mem_filter.1 hb).1 a mem hp (List.find?_some h)
    by_cases hq : q a
    · rw [find?_eq_some (List.mem_filter.2 ⟨mem, hq⟩) (List.find?_some h) only,
        Option.filter_some, if_pos hq]
    · rw [Option.filter_some, if_neg hq, List.find?_eq_none]
      intro b hb hp
      obtain rfl := only b hb hp
      exact hq (List.mem_filter.1 hb).2

/-- The answer for such an element is found by what is searched for. -/
theorem find?_filterMap_of_one {p : α → Bool} {q : β → Bool} {f : α → Option β} {l : List α}
    (one : ∀ a ∈ l, ∀ b ∈ l, p a → p b → a = b) (same : ∀ a b, f a = some b → q b = p a) :
    (l.filterMap f).find? q = (l.find? p).bind f := by
  have answered : (fun a => (f a).any q) = fun a => decide ((f a).isSome ∧ p a) := by
    funext a
    rcases h : f a with _ | b
    · rfl
    · simp [same a b h]
  rw [List.find?_filterMap, answered, ← List.find?_filter, find?_filter_of_one one]
  rcases l.find? p with _ | a
  · rfl
  · rcases h : f a with _ | b <;> simp [Option.filter, h]

/-- What passes a test that only one element passes is found by a search. -/
theorem filter_eq_toList_find? {p : α → Bool} {l : List α} (distinct : l.Nodup)
    (one : ∀ a ∈ l, ∀ b ∈ l, p a → p b → a = b) : l.filter p = (l.find? p).toList := by
  induction l with
  | nil => rfl
  | cons a l ih =>
    obtain ⟨fresh, distinct⟩ := List.nodup_cons.1 distinct
    by_cases ha : p a
    · have others : l.filter p = [] := by
        refine List.filter_eq_nil_iff.2 fun b hb hp => fresh ?_
        rwa [one a List.mem_cons_self b (List.mem_cons_of_mem a hb) ha hp]
      rw [List.filter_cons_of_pos ha, List.find?_cons_of_pos ha, others]
      rfl
    · rw [List.filter_cons_of_neg ha, List.find?_cons_of_neg ha]
      exact ih distinct fun b hb b' hb' =>
        one b (List.mem_cons_of_mem a hb) b' (List.mem_cons_of_mem a hb')

/-- A step for each element has answers if it has one for every element. -/
theorem mapM_eq_some {f : α → Option β} {as : List α} {bs : List β} :
    as.mapM f = some bs ↔ List.Forall₂ (fun a b => f a = some b) as bs := by
  induction as generalizing bs with
  | nil =>
    rw [List.mapM_nil, List.forall₂_nil_left_iff]
    exact ⟨fun h => (Option.some.inj h).symm, fun h => congrArg _ h.symm⟩
  | cons a as ih =>
    rw [List.mapM_cons, List.forall₂_cons_left_iff, Option.bind_eq_bind, Option.bind_eq_some_iff]
    constructor
    · rintro ⟨b, hb, h⟩
      obtain ⟨rest, hrest, h⟩ := Option.bind_eq_some_iff.1 h
      exact ⟨b, rest, hb, ih.1 hrest, (Option.some.inj h).symm⟩
    · rintro ⟨b, rest, hb, hrest, rfl⟩
      exact ⟨b, hb, Option.bind_eq_some_iff.2 ⟨rest, ih.2 hrest, rfl⟩⟩

theorem mapM_eq_some_map {f : α → Option β} {g : α → β} {l : List α}
    (h : ∀ a ∈ l, f a = some (g a)) : l.mapM f = some (l.map g) :=
  mapM_eq_some.2 (List.forall₂_map_right_iff.2 (List.forall₂_same.2 h))

/-- A step for each pair of elements has the answers that a function gives for the first ones. -/
theorem mapM_zip_eq_some {γ : Type w} {f : α → β → Option γ} {g : α → γ} {as : List α}
    {bs : List β} (h : bs.length = as.length) :
    (as.zip bs).mapM (fun p => f p.1 p.2) = some (as.map g) ↔
      List.Forall₂ (fun a b => f a b = some (g a)) as bs := by
  induction as generalizing bs with
  | nil =>
    obtain rfl := List.eq_nil_of_length_eq_zero h
    exact ⟨fun _ => .nil, fun _ => rfl⟩
  | cons a as ih =>
    obtain ⟨b, bs, rfl⟩ := List.exists_of_length_succ bs h
    rw [List.zip_cons_cons, List.map_cons, mapM_eq_some, List.forall₂_cons, ← mapM_eq_some,
      ih (Nat.succ.inj h), List.forall₂_cons]

theorem filterMap_eq_map_filter {f : α → Option β} {p : α → Bool} {g : α → β} {l : List α}
    (h : ∀ a ∈ l, f a = if p a then some (g a) else none) :
    l.filterMap f = (l.filter p).map g := by
  rw [← List.filterMap_eq_map, List.filterMap_filter]
  exact List.filterMap_congr h

theorem exists_map_eq [Inhabited β] {as : List α} (distinct : as.Nodup) {bs : List β}
    (h : bs.length = as.length) : ∃ g : α → β, as.map g = bs := by
  classical
  induction as generalizing bs with
  | nil => exact ⟨fun _ => default, (List.eq_nil_of_length_eq_zero h).symm⟩
  | cons a as ih =>
    obtain ⟨fresh, distinct⟩ := List.nodup_cons.1 distinct
    obtain ⟨b, bs, rfl⟩ := List.exists_of_length_succ bs h
    obtain ⟨g, rfl⟩ := ih distinct (Nat.succ.inj h)
    refine ⟨Function.update g a b, List.cons_eq_cons.2 ⟨Function.update_self .., ?_⟩⟩
    exact List.map_congr_left fun c hc =>
      Function.update_of_ne (ne_of_mem_of_not_mem hc fresh) b g

/-! ### Lists related element by element -/

theorem exists_eq_map {γ : Type w} {R : α → β → Prop} {S : α → γ → Prop} {g : γ → β}
    {as : List α} {bs : List β} (h : List.Forall₂ R as bs)
    (split : ∀ a ∈ as, ∀ b, R a b → ∃ c, S a c ∧ b = g c) :
    ∃ cs, List.Forall₂ S as cs ∧ bs = cs.map g := by
  induction h with
  | nil => exact ⟨[], .nil, rfl⟩
  | cons hab _ ih =>
    obtain ⟨first, rest⟩ := List.forall_mem_cons.1 split
    obtain ⟨c, hc, rfl⟩ := first _ hab
    obtain ⟨cs, hcs, rfl⟩ := ih rest
    exact ⟨c :: cs, .cons hc hcs, rfl⟩

theorem exists_forall₂ {R : α → β → Prop} {as : List α} (h : ∀ a ∈ as, ∃ b, R a b) :
    ∃ bs, List.Forall₂ R as bs := by
  induction as with
  | nil => exact ⟨[], .nil⟩
  | cons a as ih =>
    obtain ⟨ha, has⟩ := List.forall_mem_cons.1 h
    obtain ⟨b, hb⟩ := ha
    obtain ⟨bs, hbs⟩ := ih has
    exact ⟨b :: bs, .cons hb hbs⟩

theorem forall₂_filterMap {R : α → β → Prop} {f : α → Option β} {as : List α}
    (h : ∀ a ∈ as, ∃ b, f a = some b ∧ R a b) : List.Forall₂ R as (as.filterMap f) := by
  induction as with
  | nil => exact .nil
  | cons a as ih =>
    obtain ⟨⟨b, hb, hab⟩, has⟩ := List.forall_mem_cons.1 h
    rw [List.filterMap_cons_some hb]
    exact .cons hab (ih has)

theorem forall₂_iff_map_eq {γ : Type w} {f : α → γ} {g : β → γ} {as : List α} {bs : List β} :
    List.Forall₂ (fun a b => g b = f a) as bs ↔ bs.map g = as.map f := by
  rw [eq_comm, ← List.forall₂_eq_eq_eq, List.forall₂_map_left_iff, List.forall₂_map_right_iff]
  simp only [eq_comm]

/-- Elements that are answered alike may stand for one another. -/
theorem filterMap_eq_of_forall₂ {R : α → γ → Prop} {f : α → Option β} {g : γ → Option β}
    (h : ∀ a b, R a b → g b = f a) {as : List α} {bs : List γ} (hr : List.Forall₂ R as bs) :
    bs.filterMap g = as.filterMap f := by
  induction hr with
  | nil => rfl
  | cons hab _ ih => rw [List.filterMap_cons, List.filterMap_cons, h _ _ hab, ih]

end RequestGroups
