import RequestGroups.Proofs.Grammar.Flat
import RequestGroups.Proofs.Grammar.StructNames

/-! # The form of structs that are read

A struct that is read from tokens has parts of a regular form (`Item.regular_of_read`): its fields
in braces have names, there are no fields inside of visibilities, and its generic parameters start
with an angle bracket if there are any. -/

namespace RequestGroups.Grammar

open RequestGroups.Source Reader

/-- The field has a name, and no fields in its visibility. -/
structure FieldItem.Regular (f : FieldItem) : Prop where
  name : f.name.isSome
  visibility : f.visibility.isFlat

/-- **The form of a struct** that is read from tokens. -/
structure StructItem.Regular (s : StructItem) : Prop where
  visibility : s.visibility.isFlat
  parameters : s.parameters = [] ∨ ∃ rest, s.parameters = Phrase.sign "<" ++ rest
  fields : ∀ l, s.fields = .named l → ∀ f ∈ l.fields, f.Regular

namespace Rules

variable {g : Nonterminals}

/-! ### Visibilities -/

theorem gives_take (n : Nat) : Gives (Phrase.isFlat ·) (take n) := by
  intro i p j h
  cases h
  exact Phrase.isFlat_verbatim _

theorem gives_word (name : String) : Gives (Phrase.isFlat ·) (word name) :=
  Gives.bind fun _ => Gives.ite (gives_take 1) Gives.fault

theorem gives_modPath : Gives (fun p : Path => p.phrase.isFlat) modPath := by
  refine Gives.bind fun root => Gives.bind fun found => ?_
  obtain ⟨names, more⟩ := found
  have path : (⟨root.isSome, names.map fun i => ⟨i, []⟩⟩ : Path).phrase.isFlat :=
    Path.isFlat_phrase.2 (List.forall_mem_map.2 fun _ _ => rfl)
  refine Gives.ite (Gives.bind fun name => Gives.pure ?_)
    (Gives.ite (Gives.bind fun _ => Gives.pure path) (Gives.pure path))
  exact Path.isFlat_phrase.2 (List.forall_mem_singleton.2 rfl)

theorem gives_group {d : Delimiter} {r : Reader Phrase} (hr : Gives (Phrase.isFlat ·) r) :
    Gives (Phrase.isFlat ·) (Reader.group d r) :=
  hr.inGroup.map fun p hp => (Phrase.isFlat_group d p).trans hp

theorem gives_restriction : Gives (Phrase.isFlat ·) restriction := by
  have empty : Gives (Phrase.isFlat ·) (pure []) := Gives.pure rfl
  refine Gives.bind fun content => ?_
  cases content with
  | none => exact empty
  | some ts =>
    refine Gives.ite (Gives.ite (gives_group ?_) empty) (Gives.ite (gives_group ?_) empty)
    · rw [← bind_pure_comp]
      exact Gives.bind fun _ => Gives.pure rfl
    · refine (gives_word "in").andThen fun p hp => gives_modPath.map fun path hpath => ?_
      rw [Phrase.isFlat_append, hp, hpath]
      rfl

theorem gives_visibility : Gives (Phrase.isFlat ·) visibility := by
  have pub : Gives (fun o => ∀ p ∈ o, Phrase.isFlat p) (word? "pub") :=
    Gives.bind fun _ => Gives.ite ((gives_take 1).map fun p hp q hq => Option.some.inj hq ▸ hp)
      (Gives.pure nofun)
  refine pub.andThen fun o ho => ?_
  cases o with
  | none => exact Gives.pure rfl
  | some p =>
    refine gives_restriction.map fun q hq => ?_
    rw [Phrase.isFlat_append, ho p rfl, hq]
    rfl

/-! ### Structs -/

theorem regular_namedFieldWith {nested : Reader FieldItem} :
    Gives FieldItem.Regular (namedFieldWith g nested) :=
  gives_namedFieldWith_parts (A := fun _ => True) (fun _ _ _ _ => trivial) gives_visibility
    fun _ _ _ _ _ hv => ⟨rfl, hv⟩

theorem gives_genericParameters : Gives
    (fun p : Parameters => p.phrase = [] ∨ ∃ rest, p.phrase = Phrase.sign "<" ++ rest)
    (genericParameters g) := by
  have opening : Gives (fun o => ∀ p ∈ o, p = Phrase.sign "<") (sign? "<") :=
    Gives.bind fun _ =>
      Gives.ite (Gives.bind fun _ => Gives.pure fun _ hp => (Option.some.inj hp).symm)
        (Gives.pure nofun)
  refine opening.andThen fun o ho => ?_
  cases o with
  | none => exact Gives.pure (Or.inl rfl)
  | some start =>
    refine Gives.bind fun elements => Gives.bind fun stop =>
      Gives.ite (Gives.pure (Or.inl rfl)) (Gives.pure ?_)
    exact Or.inr ⟨lifetimesFirst elements ++ stop, by rw [ho start rfl, List.append_assoc]⟩

theorem regular_structItem {as : List Attribute} : Gives StructItem.Regular (structItem g as) := by
  refine gives_visibility.andThen fun v hv => Gives.bind fun _ => Gives.bind fun name => ?_
  refine gives_genericParameters.andThen fun parameters hparameters => ?_
  refine (gives_structBody_named fun _ => regular_namedFieldWith).andThen fun body hbody => ?_
  exact Gives.pure ⟨hv, hparameters, hbody⟩

end Rules

/-- **The form of a struct that is read.** -/
theorem Item.regular_of_read {ts : List TokenTree} {s : StructItem}
    (h : Item.read ts = .ok (.struct s)) : s.Regular :=
  Item.of_read (fun _ _ => Rules.regular_structItem) h

end RequestGroups.Grammar
