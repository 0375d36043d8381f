import RequestGroups.Declaration.Marker
import RequestGroups.Proofs.Grammar.Lists
import RequestGroups.Proofs.Grammar.Reads

/-! # Which arguments are strings

An expression counts as a string only if it is a string literal and nothing else, apart from
attributes in front of it. So the key that a marker gives is the value of the first literal in its
arguments.

* `unaryRule_string`, `operatorsRule_string`, `expr_string`: what the rules of expressions give as
  a string they find at the front of the trees, behind attributes;
* `firstLiteral?_of_string`: where the key of a marker comes from;
* `ofArgument_literal`: a string literal alone gives its value as the key. -/

namespace RequestGroups

open Source Grammar Rules Reader

variable {g : Nonterminals} {structs : Bool} {i j : Input} {e : ExprPhrase} {v : String}

/-! ### Attributes -/

/-- The text of a literal. -/
def Source.TokenTree.literal? : TokenTree → Option String
  | .literal text _ => some text
  | _ => none

/-- Whether a tree is no literal. -/
def NoLiteral (t : TokenTree) : Prop := t.literal? = none

theorem takes_hash : Takes NoLiteral (sign "#") := by
  rintro ⟨_ | ⟨t, rest⟩, scope, within, leftover⟩ p j h
  · exact absurd (sign_eq_ok h).1 nofun
  · obtain ⟨hs, -, rfl⟩ := sign_eq_ok h
    refine ⟨[t], rfl, List.forall_mem_singleton.2 ?_⟩
    cases t <;> first | rfl | exact absurd hs nofun

theorem takes_inGroup {d : Delimiter} {r : Reader α} : Takes NoLiteral (inGroup d r) := by
  intro i a j h
  obtain ⟨opens, closes, inner, rest, k, hi, -, rfl⟩ := inGroup_eq_ok.1 h
  exact ⟨[_], hi, List.forall_mem_singleton.2 rfl⟩

theorem takes_attributes : Takes NoLiteral (attributes g) := by
  unfold attributes outerAttributes
  refine .bind (.iterate (fun done => .bind (.sees _) fun b => .ite .pure ?_) _) fun _ => .pure
  unfold outerAttribute
  exact .bind (.bind takes_hash fun _ => .bind takes_inGroup fun _ => .pure) fun _ => .pure

/-! ### Expressions that are no strings -/

/-- An expression that is no string. -/
def NoString (e : ExprPhrase) : Prop := ∀ v, e.shape ≠ .string v

theorem gives_pathExpr : Gives NoString (pathExpr g structs) := by
  unfold pathExpr
  refine .bind fun _ => .bind fun _ => .ite ?_ (.ite ?_ ?_)
  · exact .bind fun _ => .bind fun _ => .pure fun _ => nofun
  · exact .bind fun _ => .pure fun _ => nofun
  · exact .pure fun _ => nofun

theorem gives_labelled : Gives NoString (labelled g) := by
  unfold labelled
  refine .bind fun _ => .bind fun _ => .bind fun ts => ?_
  dsimp only
  repeat' first
    | exact Gives.pure fun _ => nofun
    | refine Gives.bind fun _ => ?_
    | refine Gives.ite ?_ ?_

/-! ### Expressions that are strings -/

/-- A string comes from a literal. -/
theorem atom_string (h : atom g structs i = .ok (e, j)) (hv : e.shape = .string v) :
    stringValue? i.rest = some v := by
  unfold atom at h
  obtain ⟨ts, i', ahead, h⟩ := bind_eq_ok.1 h
  cases ahead
  by_cases hl : Look.literal i.rest
  · rw [if_pos hl] at h
    obtain ⟨p, k, -, h⟩ := bind_eq_ok.1 h
    obtain ⟨rfl, -⟩ := pure_eq_ok.1 h
    rcases hs : stringValue? i.rest with _ | w
    · simp [hs] at hv
    · simpa [hs] using hv
  · -- no other kind of operand is a string
    rw [if_neg hl] at h
    refine absurd hv ((?_ : Gives NoString _) _ _ _ h v)
    repeat' first
      | exact gives_pathExpr
      | exact gives_labelled
      | exact Gives.fault
      | exact Gives.pure fun _ => nofun
      | refine Gives.bind fun _ => ?_
      | refine Gives.ite ?_ ?_

/-- A step that goes on with an expression that is no string. -/
abbrev GivesNoString (step : Reader (Option ExprPhrase)) : Prop :=
  Gives (fun o => ∀ e ∈ o, NoString e) step

theorem givesNoString_none : GivesNoString (pure none) := .pure nofun

theorem givesNoString_some (h : NoString e) : GivesNoString (pure (some e)) :=
  .pure fun _ he => Option.some.inj he ▸ h

/-- A repetition of such steps gives a string only if it does not go on at all. -/
theorem string_of_iterate {step : ExprPhrase → Reader (Option ExprPhrase)}
    (hstep : ∀ e, GivesNoString (step e)) {e' : ExprPhrase} (h : iterate step e i = .ok (e', j))
    (hv : e'.shape = .string v) : e.shape = .string v := by
  refine iterate_induction (P := fun s _ => s.shape = .string v → e.shape = .string v) ?_ h id hv
  intro s i o j hs hr hv
  cases o with
  | none => exact hs hv
  | some s' => exact absurd hv (hstep s _ _ _ hr s' rfl v)

/-- What follows an operand makes another expression of it. -/
theorem trailers_string {e' : ExprPhrase} (h : trailers g e i = .ok (e', j))
    (hv : e'.shape = .string v) : e.shape = .string v := by
  refine string_of_iterate (fun s => ?_) h hv
  repeat' first
    | exact givesNoString_none
    | exact givesNoString_some fun _ => nofun
    | refine Gives.bind fun _ => ?_
    | refine Gives.ite ?_ ?_

theorem givesNoString_operatorStep {base : Precedence} :
    GivesNoString (operatorStep g structs base e) := by
  have operation (p : Precedence) (phrase : Phrase) :
      NoString ⟨if p = .compare then .comparison else .other, phrase⟩ := by
    intro v
    dsimp only
    split <;> exact nofun
  unfold operatorStep
  refine .bind fun ts => .ite givesNoString_none ?_
  dsimp only
  split
  · repeat' first
      | exact givesNoString_none
      | exact givesNoString_some (operation _ _)
      | refine Gives.bind fun _ => ?_
      | refine Gives.ite ?_ ?_
  · repeat' first
      | exact givesNoString_none
      | exact givesNoString_some fun _ => nofun
      | refine Gives.bind fun _ => ?_
      | refine Gives.ite ?_ ?_

/-- So do the operators behind it. -/
theorem operatorsRule_string {base : Precedence} {e' : ExprPhrase}
    (h : operatorsRule g structs base e i = .ok (e', j)) (hv : e'.shape = .string v) :
    e.shape = .string v :=
  string_of_iterate (fun _ => givesNoString_operatorStep) h hv

/-- **A string is found** behind the attributes of the operand, which have no literal outside of
their brackets. -/
theorem unaryRule_string (h : unaryRule g structs i = .ok (e, j)) (hv : e.shape = .string v) :
    ∃ ts us, i.rest = ts ++ us ∧ (∀ t ∈ ts, NoLiteral t) ∧ stringValue? us = some v := by
  unfold unaryRule at h
  obtain ⟨before, k, hbefore, h⟩ := bind_eq_ok.1 h
  obtain ⟨us, k', ahead, h⟩ := bind_eq_ok.1 h
  cases ahead
  obtain ⟨ts, hi, hts⟩ := takes_attributes _ _ _ hbefore
  refine ⟨ts, k.rest, hi, hts, ?_⟩
  split at h
  · refine absurd hv ((?_ : Gives NoString _) _ _ _ h v)
    exact .bind fun _ => .bind fun _ => .bind fun _ => .pure fun _ => nofun
  · rcases hop : ["*", "!", "-"].find? (Look.sign · k.rest) with _ | op <;>
      simp only [hop] at h
    · obtain ⟨start, k', here, h⟩ := bind_eq_ok.1 h
      cases here
      obtain ⟨operand, l, hatom, h⟩ := bind_eq_ok.1 h
      obtain ⟨whole, l', htrailers, h⟩ := bind_eq_ok.1 h
      split at h
      · exact absurd h nofun
      · obtain ⟨rfl, -⟩ := pure_eq_ok.1 h
        exact atom_string hatom (trailers_string htrailers hv)
    · refine absurd hv ((?_ : Gives NoString _) _ _ _ h v)
      exact .bind fun _ => .bind fun _ => .pure fun _ => nofun

theorem exprRule_rules_string (h : exprRule (rules g) structs i = .ok (e, j))
    (hv : e.shape = .string v) :
    ∃ ts us, i.rest = ts ++ us ∧ (∀ t ∈ ts, NoLiteral t) ∧ stringValue? us = some v := by
  obtain ⟨left, k, hleft, hoperators⟩ := bind_eq_ok.1 h
  exact unaryRule_string hleft (operatorsRule_string hoperators hv)

/-- However often the rules are applied, a string is found so. -/
theorem expr_string {n : Nat} (h : (level n).expr structs i = .ok (e, j))
    (hv : e.shape = .string v) :
    ∃ ts us, i.rest = ts ++ us ∧ (∀ t ∈ ts, NoLiteral t) ∧ stringValue? us = some v := by
  match n, h with
  | 0, h => exact absurd h nofun
  | 1, h =>
    obtain ⟨left, k, hleft, -⟩ := bind_eq_ok.1 h
    exact absurd hleft nofun
  | n + 2, h => exact exprRule_rules_string h hv

/-! ### A literal in front -/

section Literal

variable {g : Nonterminals} {scope here : Span} {text v : String} {rest : List TokenTree}

/-- The expression that a literal alone is. -/
def literalExpr (text : String) (here : Span) : ExprPhrase :=
  ⟨((stringValue? [.literal text here]).map ExprShape.string).getD .other,
    [.verbatim (.literal text here)]⟩

/-- The trees are over, or go on with a comma. -/
def EndsArgument (ts : List TokenTree) : Prop :=
  ts = [] ∨ ∃ joint span tail, ts = .punct ',' joint span :: tail

theorem shape_literalExpr (h : stringValue? [.literal text here] = some v) :
    (literalExpr text here).shape = .string v := by
  rw [literalExpr, h]
  rfl

theorem attributes_literal : attributes g (listInput scope (.literal text here :: rest)) =
    .ok ([], listInput scope (.literal text here :: rest)) := by
  rw [attributes, bind_eq (a := []) (j := listInput scope (.literal text here :: rest))]
  · rfl
  · exact iterate_none rfl

theorem atom_literal : atom g true (listInput scope (.literal text here :: rest)) =
    .ok (literalExpr text here, listInput scope rest) := rfl

theorem trailers_of_endsArgument {e : ExprPhrase} (h : EndsArgument rest) :
    trailers g e (listInput scope rest) = .ok (e, listInput scope rest) := by
  rcases h with rfl | ⟨joint, span, tail, rfl⟩
  · exact iterate_none rfl
  · exact iterate_none rfl

theorem unaryRule_literal (h : EndsArgument rest) :
    unaryRule g true (listInput scope (.literal text here :: rest)) =
      .ok (literalExpr text here, listInput scope rest) := by
  have reference : Look.sign "&" (listInput scope (.literal text here :: rest)).rest = false := rfl
  have operator : ["*", "!", "-"].find?
      (Look.sign · (listInput scope (.literal text here :: rest)).rest) = none := rfl
  rw [unaryRule, bind_eq attributes_literal, bind_eq (r := ahead) rfl]
  simp only [reference, operator]
  rw [if_neg Bool.false_ne_true, bind_eq (r := get) rfl, bind_eq atom_literal,
    bind_eq (trailers_of_endsArgument h)]
  rfl

theorem shape_literalExpr_ne_range : (literalExpr text here).shape ≠ .range := by
  unfold literalExpr
  cases stringValue? [.literal text here] <;> exact nofun

theorem operatorStep_literal (h : EndsArgument rest) :
    operatorStep g true .lowest (literalExpr text here) (listInput scope rest) =
      .ok (none, listInput scope rest) := by
  rw [operatorStep, bind_eq (r := ahead) rfl, if_neg shape_literalExpr_ne_range]
  rcases h with rfl | ⟨joint, span, tail, rfl⟩ <;> rfl

/-- **A literal in front** of a comma is an argument. -/
theorem exprRule_literal (h : EndsArgument rest) :
    exprRule (rules (rules g)) true (listInput scope (.literal text here :: rest)) =
      .ok (literalExpr text here, listInput scope rest) := by
  rw [exprRule, bind_eq (r := (rules (rules g)).unary true) (unaryRule_literal h)]
  exact iterate_none (operatorStep_literal h)

theorem expressions_literal : MarkerArgument.expressions (rules (rules (rules g)))
    (listInput scope [.literal text here]) =
      .ok ([literalExpr text here], listInput scope []) :=
  listOf_last (List.cons_ne_nil _ _) (exprRule_literal (Or.inl rfl)) rfl

end Literal

/-! ### Keys of markers -/

/-- The first literal in an argument list. -/
def Grammar.Argument.firstLiteral? : Argument → Option String
  | .list _ _ _ tokens => tokens.findSome? TokenTree.literal?
  | _ => Option.none

theorem stringValue?_eq_some {ts : List TokenTree} (h : stringValue? ts = some v) :
    ∃ text span rest, ts = .literal text span :: rest ∧ Look.isString text ∧
      ∃ suffix, Text.Quoted.read? text = some (v, suffix) := by
  unfold stringValue? at h
  split at h
  · rename_i text span rest
    split at h
    · obtain ⟨⟨w, suffix⟩, hread, rfl⟩ := Option.map_eq_some_iff.1 h
      exact ⟨text, span, rest, rfl, ‹_›, suffix, hread⟩
    · exact absurd h nofun
  · exact absurd h nofun

theorem ofExpressions_eq_string {es : List ExprPhrase}
    (h : MarkerArgument.ofExpressions es = .string v) :
    ∃ e rest, es = e :: rest ∧ e.shape = .string v := by
  cases es with
  | nil => exact absurd h nofun
  | cons e rest =>
    refine ⟨e, rest, rfl, ?_⟩
    rw [MarkerArgument.ofExpressions] at h
    split at h
    · cases h
      assumption
    · exact absurd h nofun

theorem ofArgument_eq_string {a : Argument} (h : MarkerArgument.ofArgument a = .string v) :
    ∃ d opens closes tokens es, a = .list d opens closes tokens ∧
      Grammar.readAll closes MarkerArgument.expressions tokens = .ok es ∧
        MarkerArgument.ofExpressions es = .string v := by
  cases a with
  | none => exact absurd h nofun
  | value => exact absurd h nofun
  | list d opens closes tokens =>
    rw [MarkerArgument.ofArgument] at h
    split at h
    · exact ⟨d, opens, closes, tokens, _, rfl, ‹_›, h⟩
    · exact absurd h nofun

/-- **The key of a marker** is the value of the first literal among its arguments. -/
theorem firstLiteral?_of_string {a : Argument} (h : MarkerArgument.ofArgument a = .string v) :
    ∃ text suffix, a.firstLiteral? = some text ∧ Look.isString text ∧
      Text.Quoted.read? text = some (v, suffix) := by
  obtain ⟨d, opens, closes, tokens, es, rfl, hread, hstring⟩ := ofArgument_eq_string h
  obtain ⟨e, es, rfl, hv⟩ := ofExpressions_eq_string hstring
  obtain ⟨j, hlist⟩ := readAll_eq_ok hread
  obtain ⟨k, he⟩ := listOf_cons hlist
  obtain ⟨ts, us, htokens, hts, hus⟩ := expr_string he hv
  obtain ⟨text, span, rest, rfl, isString, suffix, hvalue⟩ := stringValue?_eq_some hus
  refine ⟨text, suffix, ?_, isString, hvalue⟩
  have tokens_eq : tokens = ts ++ .literal text span :: rest := htokens
  rw [Argument.firstLiteral?, tokens_eq, List.findSome?_append, List.findSome?_eq_none_iff.2 hts]
  rfl

/-- **A string literal alone** gives its value as the key. -/
theorem ofArgument_literal {d : Delimiter} {opens closes here : Span} {text : String}
    (h : stringValue? [.literal text here] = some v) :
    MarkerArgument.ofArgument (.list d opens closes [.literal text here]) = .string v := by
  have read : Grammar.readAll closes MarkerArgument.expressions [.literal text here] =
      .ok [literalExpr text here] := readAll_eq expressions_literal
  rw [MarkerArgument.ofArgument, read]
  dsimp only
  rw [MarkerArgument.ofExpressions, shape_literalExpr h]

end RequestGroups
