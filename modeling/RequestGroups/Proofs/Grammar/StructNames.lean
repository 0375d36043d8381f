import RequestGroups.Proofs.Grammar.Reads
import RequestGroups.Grammar.Recursion

/-! # Names of structs that are read

A struct that is read has an identifier for its name, and so have its fields in braces, up to those
with the name `_` (`Item.named_of_read`). -/

namespace RequestGroups.Grammar

open RequestGroups.Source Reader

/-- The name of a field may stand in source text, if the field has one. -/
def FieldItem.Named (f : FieldItem) : Prop := ∀ n ∈ f.name, Look.namesField n

/-- The fields in braces have names that may stand in source text. -/
def Fields.Named : Fields → Prop
  | .named l => ∀ f ∈ l.fields, f.Named
  | _ => True

/-- The names of a struct and of its fields may stand in source text. -/
structure StructItem.Named (s : StructItem) : Prop where
  name : Look.isName s.name
  fields : s.fields.Named

namespace Rules

variable {g : Nonterminals}

theorem gives_namedFieldWith {nested : Reader FieldItem} :
    Gives FieldItem.Named (namedFieldWith g nested) := by
  refine Gives.bind fun as => Gives.bind fun v => ?_
  intro i f k h
  obtain ⟨nameless, j, hsees, h⟩ := bind_eq_ok.1 h
  cases hsees
  have named : ∀ {name τ : _} {l : Input}, Look.namesField name →
      (pure ⟨as, v, some name, τ⟩ : Reader FieldItem) l = .ok (f, k) → f.Named := by
    intro name τ l hn hl
    cases hl
    rintro _ ⟨⟩
    exact hn
  split at h
  · next under =>
    obtain ⟨name, j, hname, h⟩ := bind_eq_ok.1 h
    obtain ⟨_, l, -, h⟩ := bind_eq_ok.1 h
    obtain ⟨τ, l, -, h⟩ := bind_eq_ok.1 h
    refine named (Bool.or_eq_true_iff.2 (Or.inr ?_)) h
    unfold anyIdent at hname
    split at hname
    · next hi =>
      cases hname
      rw [hi] at under
      exact under
    · exact absurd hname nofun
  · obtain ⟨name, j, hname, h⟩ := bind_eq_ok.1 h
    obtain ⟨_, l, -, h⟩ := bind_eq_ok.1 h
    obtain ⟨τ, l, -, h⟩ := bind_eq_ok.1 h
    exact named (Bool.or_eq_true_iff.2 (Or.inl (Gives.ident _ _ _ hname))) h

/-- A field in braces has the attributes, the visibility and the name that are read. -/
theorem gives_namedFieldWith_parts {A : List Attribute → Prop} {V : Phrase → Prop}
    {P : FieldItem → Prop} {nested : Reader FieldItem} (ha : Gives A (outerAttributes g))
    (hv : Gives V visibility) (hP : ∀ as v name type, A as → V v → P ⟨as, v, some name, type⟩) :
    Gives P (namedFieldWith g nested) := by
  refine ha.andThen fun as has => hv.andThen fun v hv => Gives.bind fun nameless => ?_
  have field : ∀ name type, Gives P (pure ⟨as, v, some name, type⟩) :=
    fun name type => Gives.pure (hP as v name type has hv)
  -- one step for each way to read the name, and in it one for each way to read the type
  refine Gives.ite (Gives.bind fun name => ?_) (Gives.bind fun name => ?_)
  · exact Gives.bind fun _ => Gives.ite (Gives.bind (field name)) (Gives.bind (field name))
  · exact Gives.bind fun _ => Gives.ite (Gives.bind (field name)) (Gives.bind (field name))

section Fields

variable {P : FieldItem → Prop}

theorem gives_fieldList {field : Reader FieldItem} (h : Gives P field) :
    Gives (fun l => ∀ f ∈ l.fields, P f) (fieldList field) := by
  intro i l j hl
  refine iterate_induction (P := fun done _ => ∀ f ∈ done.fields, P f) ?_ hl (List.forall_mem_nil _)
  intro done k o m hdone hstep
  obtain ⟨stop, k, -, hstep⟩ := bind_eq_ok.1 hstep
  split at hstep
  · cases hstep
    exact hdone
  · obtain ⟨f, k, hf, hstep⟩ := bind_eq_ok.1 hstep
    have more : ∀ x ∈ done.fields ++ [f], P x :=
      List.forall_mem_append.2 ⟨hdone, List.forall_mem_singleton.2 (h _ _ _ hf)⟩
    obtain ⟨stop, k, -, hstep⟩ := bind_eq_ok.1 hstep
    split at hstep
    · cases hstep
      exact more
    · obtain ⟨_, k, -, hstep⟩ := bind_eq_ok.1 hstep
      cases hstep
      exact more

variable (h : ∀ nested, Gives P (namedFieldWith g nested))
include h

theorem gives_namedField : Gives P (namedField g) := by
  intro i f j hf
  change namedField.go g (TokenTree.countOf i.rest) i = _ at hf
  cases hn : TokenTree.countOf i.rest with
  | zero =>
    rw [hn] at hf
    exact absurd hf nofun
  | succ n =>
    rw [hn] at hf
    exact h _ i f j hf

theorem gives_namedFields : Gives (fun l => ∀ f ∈ l.fields, P f) (namedFields g) :=
  (gives_fieldList (gives_namedField h)).inGroup

end Fields

/-- What all fields in braces and in parentheses satisfy, the fields of a struct satisfy. -/
theorem gives_structBody {P : Fields → Prop} (named : Gives (fun l => P (.named l)) (namedFields g))
    (tuple : Gives (fun l => P (.tuple l)) (tupleFields g)) (unit : P .unit) :
    Gives (fun b => P b.2) (structBody g) := by
  have sign : ∀ (clause : Option Phrase) (fields : Fields), P fields →
      Gives (fun b => P b.2) (do let _ ← Reader.sign ";"; return (clause, fields)) :=
    fun _ _ hfields => Gives.bind fun _ => Gives.pure hfields
  refine Gives.bind fun clause => Gives.bind fun ts => Gives.ite ?_ (Gives.ite ?_ (Gives.ite ?_ ?_))
  · refine tuple.andThen fun l hl => Gives.bind fun clause => Gives.bind fun ends =>
      Gives.ite ?_ ?_
    · exact Gives.bind fun _ => sign _ _ hl
    · exact sign _ _ hl
  · exact named.map fun l hl => hl
  · exact sign _ _ unit
  · exact Gives.fault

/-- What every field in braces satisfies, the fields of a struct in braces satisfy. -/
theorem gives_structBody_named {P : FieldItem → Prop}
    (h : ∀ nested, Gives P (namedFieldWith g nested)) :
    Gives (fun b => ∀ l, b.2 = .named l → ∀ f ∈ l.fields, P f) (structBody g) := by
  refine gives_structBody (P := fun fs => ∀ l, fs = .named l → ∀ f ∈ l.fields, P f) ?_ ?_ nofun
  · refine fun i l j hl l' hl' => ?_
    cases hl'
    exact gives_namedFields h i l j hl
  · exact fun _ _ _ _ => nofun

theorem gives_structItem {as : List Attribute} : Gives StructItem.Named (structItem g as) := by
  refine Gives.bind fun v => Gives.bind fun _ => ?_
  intro i s j h
  obtain ⟨name, k, hname, h⟩ := bind_eq_ok.1 h
  obtain ⟨parameters, k, -, h⟩ := bind_eq_ok.1 h
  obtain ⟨⟨clause, fields⟩, k, hbody, h⟩ := bind_eq_ok.1 h
  cases h
  refine ⟨Gives.ident _ _ _ hname, ?_⟩
  have named := gives_structBody_named (fun _ => gives_namedFieldWith) _ _ _ hbody
  cases fields with
  | named l => exact named l rfl
  | tuple l => trivial
  | unit => trivial

/-- Of an item that is no struct nothing is asked. -/
theorem gives_itemRule {P : StructItem → Prop} (h : ∀ as, Gives P (structItem g as)) :
    Gives (fun item => ∀ s, item = .struct s → P s) (itemRule g) := by
  refine Gives.orAsWritten (Gives.bind fun as => Gives.bind fun p => ?_) fun _ => nofun
  obtain ⟨v, ts⟩ := p
  refine Gives.ite ?_ (Gives.bind fun item => Gives.pure ?_)
  · refine (h as).map fun s hs item hitem => ?_
    cases hitem
    rintro _ ⟨⟩
    exact hs
  · cases item with
    | none => exact nofun
    | some k =>
      intro item hitem
      cases hitem
      exact nofun

end Rules

/-- What every struct behind its attributes satisfies, a struct that is read satisfies. -/
theorem Item.of_read {P : StructItem → Prop}
    (h : ∀ g as, Reader.Gives P (Rules.structItem g as)) {ts : List TokenTree} {s : StructItem}
    (hs : Item.read ts = .ok (.struct s)) : P s := by
  obtain ⟨j, hj⟩ := readAll_eq_ok hs
  exact Rules.gives_itemRule (h _) _ _ _ hj s rfl

/-- **The names of a struct that is read** may stand in source text. -/
theorem Item.named_of_read {ts : List TokenTree} {s : StructItem}
    (h : Item.read ts = .ok (.struct s)) : s.Named :=
  Item.of_read (fun _ _ => Rules.gives_structItem) h

end RequestGroups.Grammar
