import RequestGroups.Proofs.Expansion.Keys
import RequestGroups.Proofs.Grammar.Reads

/-! # String literals in front of other arguments

A string literal in front of the arguments of a marker is the key, provided that everything behind
it is a list of expressions too. Otherwise the marker counts as one without a key, and the field
takes its name as the key, without any report.

* `LeadsWith`: trees with a string literal in front, behind which they are over or go on with a
  comma;
* `run_map`: a reader that gives the same up to a map, on shorter trees;
* `ofArgument_leading`: which argument such a list is;
* `leadingKeys_expand`: which key the field has, and `overlooked_overlookedItem` is one that is
  lost. -/

namespace RequestGroups

open Source Grammar Rules Reader Text

variable {v : String} {tokens : List TokenTree}

/-- The trees are a string literal with a given value and, if they go on, a comma and anything. -/
def LeadsWith (v : String) (tokens : List TokenTree) : Prop :=
  ∃ text here rest, tokens = .literal text here :: rest ∧ EndsArgument rest ∧
    Look.isString text ∧ ∃ suffix, Quoted.read? text = some (v, suffix)

namespace MarkerArgument

/-- What stands behind the first two trees is a list of expressions. -/
def restReads (closes : Span) (tokens : List TokenTree) : Bool :=
  (run closes (expressions (grammar tokens)) (tokens.drop 2)).toOption.isSome

end MarkerArgument

/-- Literals with commas between them. -/
inductive LiteralList : List TokenTree → Prop where
  | nil : LiteralList []
  | cons {text : String} {here : Span} {rest : List TokenTree} (h : EndsArgument rest)
    (tail : LiteralList (rest.drop 1)) : LiteralList (.literal text here :: rest)

/-! ### Reading behind the literal -/

theorem stringValue?_literal {text suffix : String} {here : Span} (isString : Look.isString text)
    (h : Quoted.read? text = some (v, suffix)) : stringValue? [.literal text here] = some v := by
  rw [stringValue?, if_pos isString, h]
  rfl

/-- A reader that gives the same on other trees, up to a map, does so to the end of the trees. -/
theorem run_map {r : Reader α} {f : α → α} {scope : Span} {ts us : List TokenTree}
    (h : r (listInput scope ts) = (r (listInput scope us)).map fun p => (f p.1, p.2)) :
    run scope r ts = (run scope r us).map f := by
  unfold run
  change (r (listInput scope ts)).bind _ = ((r (listInput scope us)).bind _).map f
  rw [h]
  rcases r (listInput scope us) with fault | ⟨a, j⟩
  · rfl
  · simp only [Except.map, Except.bind]
    split <;> rfl

theorem grammar_eq_rules (ts : List TokenTree) : ∃ g, grammar ts = rules (rules (rules g)) := by
  have deep : 8 * (TokenTree.countOf ts + 2) = 8 * TokenTree.countOf ts + 13 + 3 := by omega
  refine ⟨level (8 * TokenTree.countOf ts + 13), ?_⟩
  rw [grammar, deep]
  rfl

section Leading

variable {g : Nonterminals} {scope here : Span} {text : String} {rest : List TokenTree}

/-- **The literal is the first expression**, and the others are those behind the comma. -/
theorem expressions_leading (h : EndsArgument rest) :
    MarkerArgument.expressions (rules (rules (rules g)))
      (listInput scope (.literal text here :: rest)) =
    (MarkerArgument.expressions (rules (rules (rules g))) (listInput scope (rest.drop 1))).map
      fun p => (literalExpr text here :: p.1, p.2) := by
  have literal : Rules.exprRule (rules (rules g)) true
      (listInput scope (.literal text here :: rest)) =
    .ok (literalExpr text here, listInput scope rest) := exprRule_literal h
  rcases h with rfl | ⟨joint, span, tail, rfl⟩
  · have ended : MarkerArgument.expressions (rules (rules (rules g))) (listInput scope []) =
      .ok ([], listInput scope []) := listOf_nil rfl
    rw [expressions_literal, List.drop_nil, ended]
    rfl
  · exact listOf_comma (List.cons_ne_nil _ _) literal rfl (Nat.le_succ _)

theorem isSome_run_literals {ts : List TokenTree} (h : LiteralList ts) :
    (run scope (MarkerArgument.expressions (rules (rules (rules g)))) ts).toOption.isSome := by
  induction h with
  | nil =>
    have ended : MarkerArgument.expressions (rules (rules (rules g))) (listInput scope []) =
      .ok ([], listInput scope []) := listOf_nil rfl
    rw [run_eq_ok.2 ⟨_, ended, rfl, rfl⟩]
    rfl
  | @cons text here rest hrest _ ih =>
    rw [run_map (expressions_leading hrest)]
    obtain ⟨es, hes⟩ := Option.isSome_iff_exists.1 ih
    rw [Outcome.toOption_eq_some.1 hes]
    rfl

end Leading

/-- **Which argument a list is** that starts with a string literal: the key, if what stands behind
the literal is a list of expressions. -/
theorem ofArgument_leading {d : Delimiter} {opens closes : Span} (h : LeadsWith v tokens) :
    MarkerArgument.ofArgument (.list d opens closes tokens) =
      if MarkerArgument.restReads closes tokens then .string v else .other := by
  obtain ⟨text, here, rest, rfl, hrest, isString, suffix, hv⟩ := h
  have value : stringValue? [.literal text here] = some v := stringValue?_literal isString hv
  obtain ⟨g, hg⟩ := grammar_eq_rules (.literal text here :: rest)
  have split : Grammar.readAll closes MarkerArgument.expressions (.literal text here :: rest) =
      (run closes (MarkerArgument.expressions (grammar (.literal text here :: rest)))
        (rest.drop 1)).map (literalExpr text here :: ·) := by
    rw [Grammar.readAll, hg]
    exact run_map (expressions_leading hrest)
  have behind : (TokenTree.literal text here :: rest).drop 2 = rest.drop 1 := rfl
  rw [MarkerArgument.ofArgument, split, MarkerArgument.restReads, behind]
  rcases run closes (MarkerArgument.expressions (grammar (.literal text here :: rest)))
    (rest.drop 1) with fault | es
  · rfl
  · simp [Except.map, Except.toOption, MarkerArgument.ofExpressions, shape_literalExpr value]

theorem restReads_literals {closes : Span} (h : LiteralList (tokens.drop 2)) :
    MarkerArgument.restReads closes tokens := by
  obtain ⟨g, hg⟩ := grammar_eq_rules tokens
  rw [MarkerArgument.restReads, hg]
  exact isSome_run_literals h

/-! ### Keys of fields -/

theorem keyIn_leading {c : Config} {s : StructItem} {e : Expansion}
    (he : expansionOf c (.struct s) = .ok e) {f : FieldItem} (hf : f ∈ s.namedFields)
    {a : Attribute} (ha : a ∈ f.attributes) (hm : c.markers.isMarker a) {d : Delimiter}
    {opens closes : Span} (hargument : a.entry.argument = .list d opens closes tokens)
    (hleads : LeadsWith v tokens) : ∃ n, f.name = some n ∧
      f.keyIn c.markers = if MarkerArgument.restReads closes tokens then v else n.name := by
  obtain ⟨⟨n, hn, keyIn⟩, -⟩ := emitted_of_isMarker he hf ha hm
  refine ⟨n, hn, ?_⟩
  rw [keyIn, hargument, ofArgument_leading hleads]
  split <;> rfl

/-- **A string literal in front of other arguments is the key** if these are a list of expressions,
for example literals; otherwise the field is emitted with its name as the key. -/
theorem leadingKeys_expand (v : String) (tokens : List TokenTree) (h : LeadsWith v tokens)
    (d : Delimiter) (opens closes : Span) :
    (MarkerArgument.ofArgument (.list d opens closes tokens) =
      if MarkerArgument.restReads closes tokens then .string v else .other) ∧
    (LiteralList (tokens.drop 2) → MarkerArgument.restReads closes tokens) ∧
    ∀ c s e, expansionOf c (.struct s) = .ok e → ∀ f ∈ s.namedFields, ∀ a ∈ f.attributes,
      c.markers.isMarker a → a.entry.argument = .list d opens closes tokens →
        (∃ n, f.name = some n ∧ f.keyIn c.markers =
          if MarkerArgument.restReads closes tokens then v else n.name) ∧
        ∃ r, ∃ g ∈ StructItem.items ((e.record r).code c e.declaration), g.name = f.name ∧
          g.attributes = f.others c.markers ++
            [GroupRecord.keyAttribute (f.keyIn c.markers)] := by
  refine ⟨ofArgument_leading h, fun literals => restReads_literals literals, ?_⟩
  intro c s e he f hf a ha hm hargument
  have key := keyIn_leading he hf ha hm hargument h
  have emitted := (emitted_of_isMarker he hf ha hm).2
  exact ⟨key, emitted⟩

/-! ### A key that is found, and one that is lost -/

/-- A header with a marker that starts with the key `X-Id`. -/
def leadingField (others : List TokenTree) : FieldItem :=
  ⟨[attributeOf "header" (quoted "X-Id" :: .punct ',' false .callSite :: others)], [],
    some (.plain "id"), Phrase.word "u64"⟩

/-- A struct with this header only. -/
def leadingItem (others : List TokenTree) : StructItem where
  attributes := []
  visibility := []
  name := .plain "Fetch"
  parameters := []
  clause := none
  fields := .named ⟨[leadingField others], false⟩

theorem leadsWith_leadingItem (others : List TokenTree) :
    LeadsWith "X-Id" (quoted "X-Id" :: .punct ',' false .callSite :: others) :=
  ⟨_, _, _, rfl, Or.inr ⟨_, _, _, rfl⟩, by decide, "", Quoted.read?_write "X-Id"⟩

theorem exists_expansionOf {s : StructItem} (h : (expansionOf {} (.struct s)).toOption.isSome) :
    ∃ e, expansionOf {} (.struct s) = .ok e := by
  obtain ⟨e, he⟩ := Option.isSome_iff_exists.1 h
  exact ⟨e, Outcome.toOption_eq_some.1 he⟩

/-- Another literal behind the key is ignored. -/
theorem leadingKeys_leadingItem : ∃ e,
    expansionOf {} (.struct (leadingItem [quoted "old"])) = .ok e ∧
      ∃ r, ∃ g ∈ StructItem.items ((e.record r).code {} e.declaration),
        g.name = some (.plain "id") ∧ g.attributes = [GroupRecord.keyAttribute "X-Id"] := by
  obtain ⟨e, he⟩ := exists_expansionOf (s := leadingItem [quoted "old"]) (by decide +kernel)
  obtain ⟨-, literals, emitted⟩ := leadingKeys_expand "X-Id" _
    (leadsWith_leadingItem [quoted "old"]) .paren .callSite .callSite
  obtain ⟨⟨n, -, keyIn⟩, r, g, hg, hname, hattributes⟩ := emitted {} _ e he
    (leadingField [quoted "old"]) (List.mem_singleton_self _) _ (List.mem_singleton_self _)
    (by decide +kernel) rfl
  rw [literals (.cons (Or.inl rfl) .nil), if_pos rfl] at keyIn
  rw [keyIn] at hattributes
  exact ⟨e, he, r, g, hg, hname, hattributes⟩

/-- The arguments `type = "id"`, which are no expression since `type` is a keyword. -/
def typeArgument : List TokenTree :=
  [.ident (.plain "type"), .punct '=' false .callSite, quoted "id"]

/-- **A key is lost**: with an argument behind it that is no expression, the key of the marker does
not count, and the field is emitted with its name. -/
theorem overlooked_typeArgument :
    ¬ (∀ v tokens, LeadsWith v tokens → ∀ d opens closes,
      MarkerArgument.ofArgument (.list d opens closes tokens) = .string v) ∧
    ∃ e, expansionOf {} (.struct (leadingItem typeArgument)) = .ok e ∧
      ∃ r, ∃ g ∈ StructItem.items ((e.record r).code {} e.declaration),
        g.name = some (.plain "id") ∧ g.attributes = [GroupRecord.keyAttribute "id"] := by
  have other : MarkerArgument.ofArgument (.list .paren .callSite .callSite
      (quoted "X-Id" :: .punct ',' false .callSite :: typeArgument)) = .other := by
    decide +kernel
  refine ⟨fun h => ?_, ?_⟩
  · have string := h "X-Id" _ (leadsWith_leadingItem typeArgument) .paren .callSite .callSite
    exact absurd (other.symm.trans string) nofun
  · obtain ⟨e, he⟩ := exists_expansionOf (s := leadingItem typeArgument) (by decide +kernel)
    obtain ⟨⟨n, hn, keyIn⟩, r, g, hg, hname, hattributes⟩ := emitted_of_isMarker he
      (f := leadingField typeArgument) (List.mem_singleton_self _) (List.mem_singleton_self _)
      (by decide +kernel)
    have key : FieldItem.keyIn .default (leadingField typeArgument) = "id" := by
      cases hn
      exact keyIn.trans (congrArg (fun m : MarkerArgument => m.key?.getD "id") other)
    refine ⟨e, he, r, g, hg, hname, hattributes.trans ?_⟩
    have others : FieldItem.others .default (leadingField typeArgument) = [] := by decide +kernel
    exact congrArg₂ (fun as key => as ++ [GroupRecord.keyAttribute key]) others key

end RequestGroups
