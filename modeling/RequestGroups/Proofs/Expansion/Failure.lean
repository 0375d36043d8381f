import RequestGroups.Expansion.Expand
import RequestGroups.Proofs.Config.Arguments
import RequestGroups.Proofs.Grammar.Stripping

/-! # What becomes of an item that is not expanded

A failure at any stage gives one diagnostic in front of the item. An item that cannot be read stays
as it is; any other item loses its markers and nothing else.

* `attempt` is the expansion of an item under the configuration of some arguments, which fails if
  the arguments or the item are wrong;
* `words_report` is the diagnostic, and `MarkerTable.kept` is what is left of an item without its
  markers;
* `Response` lists what may stand in place of an item, and `response_applyAttribute` says that
  nothing else ever does. -/

namespace RequestGroups

open Source Grammar

/-- The tokens that arguments ask for in place of an item, or what is wrong. -/
def attempt (arguments : List TokenTree) (i : Item) : Except Failure (List TokenTree) := do
  let c ← (Config.ofArguments arguments).mapError .fault
  c.expand i

/-! ### Diagnostics -/

/-- The words of a call that makes a compiler report a message. -/
def compileErrorWords (message : String) : List String :=
  [":", ":", "core", ":", ":", "compile_error", "!", "\x7b", Text.Quoted.write message, "\x7d"]

/-- **A diagnostic** is one call with the message of the failure. -/
theorem words_report (f : Failure) :
    TokenTree.wordsOf f.report = compileErrorWords f.message := rfl

theorem write_ne_compile_error (text : String) : Text.Quoted.write text ≠ "compile_error" := by
  intro h
  have heads := congrArg (fun s => s.toList.head?) h
  simp [Text.Quoted.write] at heads

/-- An output that reports a failure, once, in front of some tokens. -/
structure Reported (f : Failure) (rest output : List TokenTree) : Prop where
  split : ∃ report, TokenTree.wordsOf report = compileErrorWords f.message ∧
    output = report ++ rest
  once : (TokenTree.wordsOf output).count "compile_error" =
    (TokenTree.wordsOf rest).count "compile_error" + 1

theorem reported_append (f : Failure) (rest : List TokenTree) :
    Reported f rest (f.report ++ rest) := by
  refine ⟨⟨_, words_report f, rfl⟩, ?_⟩
  rw [TokenTree.wordsOf_append, words_report, List.count_append]
  have call : (compileErrorWords f.message).count "compile_error" = 1 := by
    simp [compileErrorWords, write_ne_compile_error]
  omega

/-! ### Markers -/

/-- A marker is an attribute with a registered tag. -/
theorem MarkerTable.isMarker_eq (t : MarkerTable) (a : Attribute) :
    t.isMarker a = (a.tag?.map Ident.spelling).any t.isTag := by
  unfold isMarker roleOfAttribute
  cases a.tag? <;> rfl

/-- The tokens of an item that stand in no marker of a field. -/
def MarkerTable.kept (t : MarkerTable) (i : Item) : List Token :=
  (i.phrase.placed.filter (Placed.isKept t.isTag)).map (·.token)

theorem MarkerTable.tokens_strip (t : MarkerTable) (i : Item) :
    Token.ofTrees (t.strip i).trees = t.kept i :=
  Item.tokens_strip t.isTag i

/-- Nothing is added to the tokens of the item. -/
theorem MarkerTable.kept_sublist (t : MarkerTable) (i : Item) :
    (t.kept i).Sublist (Token.ofTrees i.trees) := by
  have h := Phrase.map_token_placed i.phrase
  exact h ▸ List.filter_sublist.map _

/-! ### Failures -/

/-- An attempt fails if the arguments are wrong, or the item is under their configuration. -/
theorem attempt_eq_error {arguments : List TokenTree} {i : Item} {f : Failure} :
    attempt arguments i = .error f ↔
      (∃ fault, Config.ofArguments arguments = .error fault ∧ .fault fault = f) ∨
        ∃ c, Config.ofArguments arguments = .ok c ∧ c.expand i = .error f := by
  unfold attempt
  simp only [Outcome.bind_eq_error, Outcome.mapError_eq_error, Outcome.mapError_eq_ok]

theorem attempt_eq_ok {arguments : List TokenTree} {i : Item} {tokens : List TokenTree} :
    attempt arguments i = .ok tokens ↔
      ∃ c, Config.ofArguments arguments = .ok c ∧ c.expand i = .ok tokens := by
  unfold attempt
  simp only [Outcome.bind_eq_ok, Outcome.mapError_eq_ok]

theorem applyAttribute_of_fault {arguments item : List TokenTree} {fault : Fault}
    (h : Item.read item = .error fault) :
    applyAttribute arguments item = (Failure.fault fault).report ++ item := by
  simp only [applyAttribute, h]

/-- A refused item is reported and loses its markers. -/
theorem applyAttribute_of_refused {arguments item : List TokenTree} {i : Item} {f : Failure}
    (hread : Item.read item = .ok i) (h : attempt arguments i = .error f) :
    applyAttribute arguments item = f.report ++ (MarkerTable.default.strip i).trees := by
  rcases attempt_eq_error.1 h with ⟨fault, hc, rfl⟩ | ⟨c, hc, he⟩
  · simp only [applyAttribute, hread, hc, reportWith]
  · simp only [applyAttribute, hread, hc, Config.expandOrReport, he, reportWith,
      Config.markers_ofArguments hc]

/-- Any other item is replaced by its expansion. -/
theorem applyAttribute_of_expanded {arguments item tokens : List TokenTree} {i : Item}
    (hread : Item.read item = .ok i) (h : attempt arguments i = .ok tokens) :
    applyAttribute arguments item = tokens := by
  obtain ⟨c, hc, he⟩ := attempt_eq_ok.1 h
  simp only [applyAttribute, hread, hc, Config.expandOrReport, he]

/-- What may stand in place of an item with an attribute. -/
inductive Response (arguments item : List TokenTree) : List TokenTree → Prop where
  /-- The item cannot be read, whatever the arguments are. -/
  | unreadable {fault : Fault} {output : List TokenTree} (hread : Item.read item = .error fault)
    (h : Reported (.fault fault) item output) : Response arguments item output
  /-- The arguments or the item are refused: the item loses its markers and nothing else. -/
  | refused {i : Item} {f : Failure} {rest output : List TokenTree}
    (hread : Item.read item = .ok i) (hf : attempt arguments i = .error f)
    (h : Reported f rest output) (hrest : Token.ofTrees rest = MarkerTable.default.kept i)
    (hsub : (Token.ofTrees rest).Sublist (Token.ofTrees i.trees)) :
    Response arguments item output
  /-- The item is expanded. -/
  | expanded {i : Item} {output : List TokenTree} (hread : Item.read item = .ok i)
    (h : attempt arguments i = .ok output) : Response arguments item output

/-- **What an attribute makes of an item**: an item that cannot be read stands unchanged behind one
diagnostic, an item that is refused stands there without its markers, and any other item is replaced
by its expansion. -/
theorem response_applyAttribute (arguments item : List TokenTree) :
    Response arguments item (applyAttribute arguments item) := by
  cases hread : Item.read item with
  | error fault =>
    rw [applyAttribute_of_fault hread]
    exact .unreadable hread (reported_append _ item)
  | ok i =>
    cases h : attempt arguments i with
    | error f =>
      have kept := MarkerTable.tokens_strip .default i
      rw [applyAttribute_of_refused hread h]
      exact .refused hread h (reported_append f _) kept (kept ▸ MarkerTable.kept_sublist _ i)
    | ok tokens =>
      rw [applyAttribute_of_expanded hread h]
      exact .expanded hread h

end RequestGroups
