import RequestGroups.Grammar.Recursion
import RequestGroups.Proofs.Grammar.Reads

/-! # Readers take trees from the front

What a reader leaves to be read is the end of what it was given (`Reader.Advances`). Each way to put
readers together keeps this, so it holds rule by rule for everything that may stand in a path; what
is read inside of a group does not matter.

* `Reader.Advances` is found by instances, along the steps of a reader;
* `Nonterminals.Advance` is the same for the readers of inner phrases, of which paths and types use
  two. -/

namespace RequestGroups.Grammar

open RequestGroups.Source

namespace Reader

/-- What the reader leaves is the end of what it is given. The instances follow the steps of a
reader; a rule that matches on what it has read is split by hand. -/
class Advances (r : Reader α) : Prop where
  suffix : ∀ {i a j}, r i = .ok (a, j) → j.rest <:+ i.rest

variable {r s : Reader α}

/-! ### Combinations -/

instance (a : α) : Advances (pure a) where
  suffix h := by
    obtain ⟨-, rfl⟩ := pure_eq_ok.1 h
    exact List.suffix_refl _

theorem Advances.bind {f : α → Reader β} (hr : Advances r) (hf : ∀ a, Advances (f a)) :
    Advances (r >>= f) where
  suffix h := by
    obtain ⟨a, j, ha, h⟩ := bind_eq_ok.1 h
    exact ((hf a).suffix h).trans (hr.suffix ha)

instance {f : α → Reader β} [hr : Advances r] [hf : ∀ a, Advances (f a)] : Advances (r >>= f) :=
  hr.bind hf

theorem Advances.ite {c : Prop} [Decidable c] (hr : Advances r) (hs : Advances s) :
    Advances (if c then r else s) := by
  split
  · exact hr
  · exact hs

instance {c : Prop} [Decidable c] [hr : Advances r] [hs : Advances s] :
    Advances (if c then r else s) := hr.ite hs

instance (f : α → β) [Advances r] : Advances (f <$> r) := by
  rw [map_eq_pure_bind]
  infer_instance

theorem Advances.iterate {step : σ → Reader (Option σ)} {s : σ} (h : ∀ s, Advances (step s)) :
    Advances (iterate step s) where
  suffix hi := iterate_induction (P := fun _ k => k.rest <:+ _)
    (fun s _ _ _ before hs => ((h s).suffix hs).trans before) hi (List.suffix_refl _)

instance (step : σ → Reader (Option σ)) (s : σ) [h : ∀ s, Advances (step s)] :
    Advances (Reader.iterate step s) := .iterate h

instance [h : Advances r] : Advances (spanned r) where
  suffix hi := by
    rename_i i _ _
    rcases hr : r i with fault | ⟨b, k⟩
    · rw [spanned, hr] at hi
      cases hi
    · rw [spanned, hr] at hi
      cases hi
      exact h.suffix hr

/-- A group is taken as a whole, whatever is read inside. -/
instance (d : Delimiter) : Advances (inGroup d r) where
  suffix h := by
    obtain ⟨opens, closes, inner, rest, k, hi, -, rfl⟩ := inGroup_eq_ok.1 h
    rw [hi]
    exact List.suffix_cons _ _

instance (d : Delimiter) (contents : Reader Phrase) : Advances (group d contents) := by
  unfold group
  infer_instance

/-! ### Faults -/

instance (cause : Cause) : Advances (faultHere cause : Reader α) := ⟨nofun⟩

instance (alternatives : List String) : Advances (expected alternatives : Reader α) := ⟨nofun⟩

instance (kinds : List Look.Kind) : Advances (expectedKinds kinds : Reader α) := ⟨nofun⟩

/-! ### Tokens -/

instance : Advances (get : Reader Input) where
  suffix h := by
    cases h
    exact List.suffix_refl _

instance : Advances ahead := by
  unfold ahead
  infer_instance

instance (test : List TokenTree → Bool) : Advances (sees test) := by
  unfold sees
  infer_instance

instance (n : Nat) : Advances (take n) where
  suffix h := by
    cases h
    exact List.drop_suffix _ _

instance (n : Nat) : Advances (drop n) where
  suffix h := by
    cases h
    exact List.drop_suffix _ _

instance (text : String) : Advances (sign? text) := by
  unfold sign?
  infer_instance

instance (text : String) : Advances (sign text) := by
  unfold sign
  exact .bind inferInstance fun o => by cases o <;> infer_instance

instance (name : String) : Advances (word name) := by
  unfold word
  infer_instance

instance (name : String) : Advances (word? name) := by
  unfold word?
  infer_instance

instance : Advances lifetime := by
  unfold lifetime
  infer_instance

instance : Advances lifetime? := by
  unfold lifetime?
  infer_instance

/-- A word is the first tree. -/
theorem rest_of_anyIdent {n : Ident} {i j : Input} (h : anyIdent i = .ok (n, j)) :
    i.rest = .ident n :: j.rest := by
  obtain ⟨_ | ⟨t, rest⟩, scope, within, leftover⟩ := i
  · cases h
  · cases t <;> cases h
    rfl

theorem anyIdent_of_ident {n : Ident} {i j : Input} (h : ident i = .ok (n, j)) :
    anyIdent i = .ok (n, j) := by
  obtain ⟨_ | ⟨t, rest⟩, scope, within, leftover⟩ := i
  · cases h
  · cases t with
    | ident m =>
      by_cases name : Look.isName m
      · exact (if_pos name).symm.trans h
      · exact absurd ((if_neg name).symm.trans h) (by simp)
    | _ => cases h

instance : Advances anyIdent where
  suffix h := by
    rw [rest_of_anyIdent h]
    exact List.suffix_cons _ _

instance : Advances ident := ⟨fun h => Advances.suffix (anyIdent_of_ident h)⟩

instance (sep : Reader Phrase) (stop : Reader Bool) (element : Reader Phrase) [Advances sep]
    [Advances stop] [Advances element] : Advances (separated sep stop element) := by
  unfold separated
  infer_instance

instance : Advances anyGroup where
  suffix h := by
    unfold anyGroup at h
    split at h
    · exact Advances.suffix h
    · cases h

instance : Advances literal where
  suffix h := by
    unfold literal at h
    split at h
    · split at h
      · next hi =>
        cases h
        rw [hi]
        exact (List.suffix_cons _ _).trans (List.suffix_cons _ _)
      · exact Advances.suffix h
    · cases h

end Reader

/-! ### Inner phrases -/

/-- The readers of types and of generic arguments take trees from the front. -/
class Nonterminals.Advance (g : Nonterminals) : Prop where
  type : ∀ plus, Reader.Advances (g.type plus)
  arguments : Reader.Advances g.arguments

attribute [instance] Nonterminals.Advance.type Nonterminals.Advance.arguments

open Reader

namespace Rules

variable {g : Nonterminals}

instance [g.Advance] : Advances g.typePhrase := by
  unfold Nonterminals.typePhrase
  infer_instance

/-! ### Attributes -/

instance : Advances (outerAttribute g) := by
  unfold outerAttribute
  infer_instance

instance : Advances (outerAttributes g) := by
  unfold outerAttributes
  infer_instance

instance : Advances (attributes g) := by
  unfold attributes
  infer_instance

instance : Advances (blockWithAttributes g) := by
  unfold blockWithAttributes
  infer_instance

/-! ### Paths -/

instance [g.Advance] (inExpr : Bool) : Advances (segment g inExpr) := by
  unfold segment
  dsimp only
  refine .bind inferInstance fun place => .ite inferInstance ?_
  exact .bind inferInstance fun self => .ite inferInstance inferInstance

instance [g.Advance] (inExpr : Bool) (names : List PathSegment) :
    Advances (moreSegments g inExpr names) := by
  unfold moreSegments
  infer_instance

instance [g.Advance] (inExpr : Bool) : Advances (path g inExpr) := by
  unfold path
  infer_instance

instance [g.Advance] (inExpr : Bool) : Advances (qualifiedPath g inExpr) := by
  unfold qualifiedPath
  dsimp only
  refine .bind inferInstance fun simple => .ite inferInstance ?_
  refine .bind inferInstance fun _ => .bind inferInstance fun _ => .bind inferInstance fun o => ?_
  cases o with
  | none => infer_instance
  | some as =>
    refine .bind inferInstance fun _ => .bind inferInstance fun _ => ?_
    infer_instance

/-! ### Bounds -/

instance : Advances (binder g) := by
  unfold binder
  infer_instance

instance : Advances (binder? g) := by
  unfold binder?
  infer_instance

instance [g.Advance] (plus : Bool) : Advances (returnType g plus) := by
  unfold returnType
  exact .bind inferInstance fun o => by cases o <;> infer_instance

instance [g.Advance] : Advances (parenthesizedArguments g) := by
  unfold parenthesizedArguments
  infer_instance

instance : Advances captures := by
  unfold captures
  dsimp only
  refine .bind inferInstance fun _ => .bind inferInstance fun _ => .bind ?_ fun _ => inferInstance
  refine .iterate fun done => .bind inferInstance fun ts => .ite inferInstance ?_
  refine .ite ?_ (.ite ?_ ?_)
  -- a comma or the end stands behind each kind of name
  all_goals
    refine .bind inferInstance fun name => .bind inferInstance fun stop => .ite inferInstance ?_
    exact .bind inferInstance fun o => by cases o <;> infer_instance

instance (place : BoundPlace) : Advances (constMark place) := by
  unfold constMark
  dsimp only
  infer_instance

instance [g.Advance] (place : BoundPlace) : Advances (traitBound g place) := by
  unfold traitBound
  dsimp only
  infer_instance

instance [g.Advance] (place : BoundPlace) : Advances (bound g place) := by
  unfold bound
  dsimp only
  refine .bind inferInstance fun lifetimeFirst => .ite inferInstance ?_
  exact .bind inferInstance fun captured => .ite inferInstance inferInstance

instance [g.Advance] (place : BoundPlace) : Advances (boundPhrase g place) := by
  unfold boundPhrase
  infer_instance

instance [g.Advance] (plus : Bool) (place : BoundPlace) : Advances (bounds g plus place) := by
  unfold bounds
  dsimp only
  infer_instance

instance [g.Advance] (stop : List TokenTree → Bool) : Advances (boundsUpTo g stop) := by
  unfold boundsUpTo
  dsimp only
  infer_instance

/-! ### Generic arguments -/

instance (element : Reader (Bool × Phrase)) [Advances element] : Advances (angleList element) := by
  unfold angleList
  dsimp only
  infer_instance

instance : Advances (constArgument g) := by
  unfold constArgument
  infer_instance

instance [g.Advance] : Advances (argument g) := by
  unfold argument
  dsimp only
  refine .bind inferInstance fun ts => .ite inferInstance (.ite inferInstance ?_)
  refine .bind inferInstance fun type => .ite (.bind inferInstance fun equals => ?_) inferInstance
  cases equals with
  | none => exact .bind inferInstance fun colon => by cases colon <;> infer_instance
  | some equals =>
    dsimp only
    infer_instance

instance [g.Advance] : Advances (genericArguments g) := by
  unfold genericArguments
  infer_instance

/-! ### Types -/

instance (start stop : Span) (message : String) (anyTrait : Bool) :
    Advances (requireTrait start stop message anyTrait) := by
  unfold requireTrait
  exact .ite inferInstance ⟨nofun⟩

instance [g.Advance] (start : Span) (plus : Bool) (place : BoundPlace) (message : String) :
    Advances (traitBounds g start plus place message) := by
  unfold traitBounds
  infer_instance

instance [g.Advance] (start : Span) (plus : Bool) : Advances (objectBounds g start plus) := by
  unfold objectBounds
  infer_instance

instance [g.Advance] : Advances (moreBounds g) := by
  unfold moreBounds
  exact .iterate fun _ => .bind inferInstance fun o => by cases o <;> infer_instance

instance [g.Advance] : Advances (openBounds g) := by
  unfold openBounds
  refine .bind (.iterate fun state => .ite inferInstance ?_) fun _ => inferInstance
  exact .bind inferInstance fun o => by cases o <;> infer_instance

instance [g.Advance] (plus : Bool) : Advances (parenthesizedType g plus) := by
  unfold parenthesizedType
  refine .bind inferInstance fun contents => ?_
  cases contents with
  | complete inner => infer_instance
  | maybe inner => infer_instance
  | inner type =>
    dsimp only
    infer_instance

instance (name : String) : Advances (optionalWord name) := by
  unfold optionalWord
  infer_instance

instance : Advances convention := by
  unfold convention
  exact .bind inferInstance fun o => by cases o <;> infer_instance

instance [g.Advance] : Advances (functionType g) := by
  unfold functionType
  infer_instance

instance [g.Advance] (plus : Bool) (names : Phrase) : Advances (pathType g plus names) := by
  unfold pathType
  refine .bind inferInstance fun ⟨p?, phrase⟩ => ?_
  cases p? with
  | none => infer_instance
  | some p =>
    dsimp only
    infer_instance

instance [g.Advance] : Advances (pointerType g) := by
  unfold pointerType
  dsimp only
  infer_instance

instance [g.Advance] : Advances (referenceType g) := by
  unfold referenceType
  infer_instance

instance : Advances (bracketType g) := by
  unfold bracketType
  infer_instance

instance [g.Advance] (plus : Bool) : Advances (dynType g plus) := by
  unfold dynType
  dsimp only
  infer_instance

instance [g.Advance] (plus : Bool) : Advances (implType g plus) := by
  unfold implType
  infer_instance

instance [g.Advance] (plus : Bool) : Advances (typeRule g plus) := by
  unfold typeRule
  refine .bind inferInstance fun names => .bind inferInstance fun ts => ?_
  dsimp only
  repeat' first
    | infer_instance
    | refine .ite ?_ ?_

end Rules

/-! ### All phrases -/

instance (n : Nat) : (level n).Advance := by
  induction n with
  | zero =>
    exact ⟨fun _ => inferInstanceAs (Advances (expected [])), inferInstanceAs (Advances (expected []))⟩
  | succ n ih =>
    exact ⟨fun plus => inferInstanceAs (Advances (Rules.typeRule (level n) plus)),
      inferInstanceAs (Advances (Rules.genericArguments (level n)))⟩

end RequestGroups.Grammar
