import Mathlib.Data.List.Induction
import RequestGroups.Declaration.MarkerTable
import RequestGroups.Proofs.Source.Identifier

/-! # Tables that registrations make

A marker table after any number of registrations is the map that the registrations describe: the
last one of a tag counts, and nothing of the table is left of the ones before it.

* `MarkerTable.registerAll` makes registrations one after the other;
* `MarkerTable.roleOf_registerAll`: the last registration of a tag gives its role;
* `MarkerTable.registerAll_congr`: tables are equal if every tag is registered alike;
* `MarkerTable.OnlySpelled`: every tag of a table is the spelling of an identifier, which every
  registration keeps, so that lookups of identifiers see the whole table (`OnlySpelled.ext`);
* `MarkerTable.registersAsMap`: all of this about tables that start empty or with the defaults. -/

namespace RequestGroups

open Source Grammar

/-- A registration; the tag is an identifier as source text spells it. -/
structure Registration where
  tag : Ident
  role : Role
  spelled : tag.IsSpelled

namespace MarkerTable

variable {s t : MarkerTable} {rs qs before after : List Registration} {r q : Registration}
  {i : Ident} {a : Attribute}

/-- Makes registrations one after the other. -/
def registerAll (t : MarkerTable) (rs : List Registration) : MarkerTable :=
  rs.foldl (fun t r => t.register r.tag.spelling r.role) t

theorem registerAll_concat : t.registerAll (rs ++ [r]) =
    (t.registerAll rs).register r.tag.spelling r.role := by
  simp [registerAll]

/-! ### What registrations make of a table -/

/-- The registrations of one tag. -/
def registrationsOf (tag : String) (rs : List Registration) : List Registration :=
  rs.filter (·.tag.spelling = tag)

/-- **The last registration of a tag** gives its role; without any, the table keeps its role. -/
theorem find?_registerAll (t : MarkerTable) (rs : List Registration) (tag : String) :
    (t.registerAll rs).find? tag =
      ((registrationsOf tag rs).getLast?.map (·.role)).or (t.find? tag) := by
  induction rs using List.reverseRecOn with
  | nil => rfl
  | append_singleton rs r ih =>
    rw [registerAll_concat, find?_register, ih, registrationsOf, registrationsOf,
      List.filter_append]
    by_cases h : r.tag.spelling = tag
    · rw [if_pos h.symm, List.filter_cons_of_pos (by simpa using h), List.filter_nil,
        List.getLast?_concat]
      rfl
    · rw [if_neg (Ne.symm h), List.filter_cons_of_neg (by simpa using h), List.filter_nil,
        List.append_nil]

/-- Tables are equal if every tag is registered alike. -/
theorem registerAll_congr (h : ∀ tag, registrationsOf tag rs = registrationsOf tag qs) :
    t.registerAll rs = t.registerAll qs := by
  refine ext_role fun tag => ?_
  rw [find?_registerAll, find?_registerAll, h tag]

/-- Registrations of different tags may change places. -/
theorem registerAll_swap (h : r.tag.spelling ≠ q.tag.spelling) :
    t.registerAll (before ++ r :: q :: after) = t.registerAll (before ++ q :: r :: after) := by
  refine registerAll_congr fun tag => ?_
  unfold registrationsOf
  rw [List.filter_append, List.filter_append]
  by_cases hr : r.tag.spelling = tag
  · have hq : q.tag.spelling ≠ tag := fun hq => h (hr.trans hq.symm)
    simp [hr, hq]
  · simp [List.filter_cons, hr]

theorem roleOf_registerAll_of_last (hr : r.tag.spelling = i.spelling)
    (last : ∀ q ∈ after, q.tag.spelling ≠ i.spelling) :
    (t.registerAll (before ++ r :: after)).roleOf i = some r.role := by
  have others : after.filter (·.tag.spelling = i.spelling) = [] :=
    List.filter_eq_nil_iff.2 fun q hq => by simpa using last q hq
  rw [roleOf, find?_registerAll, registrationsOf, List.filter_append,
    List.filter_cons_of_pos (by simpa using hr), others, List.getLast?_concat]
  rfl

theorem roleOf_registerAll_of_none (none : ∀ r ∈ rs, r.tag.spelling ≠ i.spelling) :
    (t.registerAll rs).roleOf i = t.roleOf i := by
  have nothing : registrationsOf i.spelling rs = [] :=
    List.filter_eq_nil_iff.2 fun r hr => by simpa using none r hr
  rw [roleOf, find?_registerAll, nothing]
  rfl

/-! ### Lookups see the whole table -/

/-- Every tag is the spelling of an identifier. -/
def OnlySpelled (t : MarkerTable) : Prop :=
  ∀ tag, t.isTag tag → ∃ i : Ident, i.IsSpelled ∧ i.spelling = tag

theorem onlySpelled_empty : OnlySpelled empty := by
  intro tag h
  exact absurd h (by simp [isTag])

theorem OnlySpelled.register (h : t.OnlySpelled) (r : Registration) :
    OnlySpelled (t.register r.tag.spelling r.role) := by
  intro tag htag
  rw [isTag, find?_register] at htag
  by_cases same : tag = r.tag.spelling
  · exact ⟨r.tag, r.spelled, same.symm⟩
  · rw [if_neg same] at htag
    exact h tag htag

theorem OnlySpelled.registerAll (h : t.OnlySpelled) (rs : List Registration) :
    OnlySpelled (t.registerAll rs) := by
  induction rs generalizing t with
  | nil => exact h
  | cons r rs ih => exact ih (h.register r)

/-- Tables are equal if they agree on every identifier. -/
theorem OnlySpelled.ext (hs : s.OnlySpelled) (ht : t.OnlySpelled)
    (h : ∀ i : Ident, i.IsSpelled → s.roleOf i = t.roleOf i) : s = t := by
  refine ext_role fun tag => ?_
  rcases hstag : s.find? tag with _ | role
  · rcases httag : t.find? tag with _ | role
    · rfl
    · obtain ⟨i, hi, rfl⟩ := ht tag (by rw [isTag, httag]; rfl)
      rw [← hstag, ← httag]
      exact h i hi
  · obtain ⟨i, hi, rfl⟩ := hs tag (by rw [isTag, hstag]; rfl)
    rw [← hstag]
    exact h i hi

/-- The registrations that the default table consists of. -/
def defaults : List Registration :=
  [⟨.plain Role.header.name, .header, by decide⟩, ⟨.plain Role.body.name, .body, by decide⟩]

theorem default_eq : default = empty.registerAll defaults := rfl

/-- The tables that registrations start from. -/
def IsStart (t : MarkerTable) : Prop := t = empty ∨ t = default

theorem IsStart.onlySpelled (h : t.IsStart) : t.OnlySpelled := by
  rcases h with rfl | rfl
  · exact onlySpelled_empty
  · rw [default_eq]
    exact onlySpelled_empty.registerAll defaults

/-! ### Attributes -/

theorem roleOfAttribute_of_single (h : a.path = .ofIdent i) :
    t.roleOfAttribute a = t.roleOf i := by
  rw [roleOfAttribute, Attribute.tag?, Path.ident?_eq_some.2 h, Option.bind_some]

theorem roleOfAttribute_of_other (h : ∀ i, a.path ≠ .ofIdent i) : t.roleOfAttribute a = none := by
  have none : a.path.ident? = none :=
    Option.eq_none_iff_forall_ne_some.2 fun i hi => h i (Path.ident?_eq_some.1 hi)
  rw [roleOfAttribute, Attribute.tag?, none, Option.bind_none]

/-! ### Tables as maps -/

/-- The registrations `rs` make a map of the table `t`, in which the spellings of identifiers are
looked up. -/
structure RegistersAsMap (t : MarkerTable) (rs : List Registration) : Prop where
  /-- Tables are equal if and only if they agree on every identifier. -/
  extensional : ∀ s qs, IsStart s → (t.registerAll rs = s.registerAll qs ↔
    ∀ i : Ident, i.IsSpelled → (t.registerAll rs).roleOf i = (s.registerAll qs).roleOf i)
  /-- The last registration of exactly this spelling counts. -/
  last : ∀ i before r after, rs = before ++ r :: after → r.tag.spelling = i.spelling →
    (∀ q ∈ after, q.tag.spelling ≠ i.spelling) → (t.registerAll rs).roleOf i = some r.role
  /-- Without one the table keeps the role it starts with. -/
  fallback : ∀ i : Ident, (∀ r ∈ rs, r.tag.spelling ≠ i.spelling) →
    (t.registerAll rs).roleOf i = t.roleOf i
  /-- A spelling stands for one name, with or without the mark of raw identifiers. -/
  tags : ∀ i j : Ident, i.IsSpelled → j.IsSpelled →
    (i.spelling = j.spelling ↔ i.raw = j.raw ∧ i.name = j.name)
  /-- Registrations of different tags commute. -/
  commute : ∀ before r q after, rs = before ++ r :: q :: after → r.tag.spelling ≠ q.tag.spelling →
    t.registerAll rs = t.registerAll (before ++ q :: r :: after)
  /-- An attribute whose path is a single identifier has the role of the identifier. -/
  single : ∀ (a : Attribute) i, a.path = .ofIdent i →
    (t.registerAll rs).roleOfAttribute a = (t.registerAll rs).roleOf i
  /-- An attribute with any other path has none. -/
  other : ∀ a : Attribute, (∀ i, a.path ≠ .ofIdent i) →
    (t.registerAll rs).roleOfAttribute a = none

/-- **Marker tables are extensional maps** from the spellings of identifiers to roles. -/
theorem registersAsMap (ht : t.IsStart) (rs : List Registration) : t.RegistersAsMap rs where
  extensional s qs hs := by
    constructor
    · intro h i _
      rw [h]
    · exact (ht.onlySpelled.registerAll rs).ext (hs.onlySpelled.registerAll qs)
  last i before r after hrs hr hlast := by
    rw [hrs]
    exact roleOf_registerAll_of_last hr hlast
  fallback i none := roleOf_registerAll_of_none none
  tags i j hi hj := by
    rw [Ident.spelling_eq_iff hi hj, Ident.same, Bool.and_eq_true, beq_iff_eq, beq_iff_eq]
  commute before r q after hrs h := by
    rw [hrs]
    exact registerAll_swap h
  single a i h := roleOfAttribute_of_single h
  other a h := roleOfAttribute_of_other h

/-- A registration of the tag `header` or, if it is raw, of `r#header`. -/
def headerTag (raw : Bool) (role : Role) : Registration :=
  ⟨⟨raw, "header", .callSite⟩, role, by cases raw <;> decide⟩

/-- On the default table, `header` becomes a marker of the body, and `r#header` one of the header
after it was one of the body. -/
def relabelled : List Registration :=
  [headerTag true .body, headerTag false .body, headerTag true .header]

theorem registersAsMap_relabelled : IsStart default ∧ default.RegistersAsMap relabelled ∧
    (default.registerAll relabelled).roleOf (.plain "header") = some .body ∧
    (default.registerAll relabelled).roleOf ⟨true, "header", .callSite⟩ = some .header ∧
    (default.registerAll relabelled).roleOf (.plain "body") = some .body ∧
    default.registerAll relabelled =
      empty.registerAll (defaults ++ [headerTag true .header, headerTag false .body]) := by
  have map := registersAsMap (.inr rfl) relabelled
  refine ⟨.inr rfl, map, ?_, ?_, ?_, by decide⟩
  · exact map.last _ [headerTag true .body] _ [headerTag true .header] rfl rfl (by decide)
  · exact map.last _ [headerTag true .body, headerTag false .body] _ [] rfl rfl (by decide)
  · exact map.fallback _ (by decide)

end MarkerTable

end RequestGroups
