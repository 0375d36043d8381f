import RequestGroups.Config.Arguments
import RequestGroups.Declaration.Reading
import RequestGroups.Expansion.Emission

/-! # Expanding items

* `Config.expand` gives the tokens for an item under a configuration, or what is wrong with it;
* `Config.expandOrReport` never fails: the problem becomes a diagnostic in front of the item without
  markers;
* `applyAttribute` does the same for the tokens of arguments and of an item. An item that cannot be
  read stays as it is, whatever the arguments are. -/

namespace RequestGroups

open Source Grammar

/-- What is wrong with an item or with the arguments of its expansion. -/
inductive Failure where
  /-- Tokens that cannot be read. -/
  | fault (f : Fault)
  /-- A declaration that cannot be expanded. -/
  | diagnostic (d : Diagnostic)
  deriving Repr

namespace Failure

/-- The words for a failure. -/
def message : Failure → String
  | fault f => f.cause.message
  | diagnostic d => d.problem.message

/-- The place that a failure concerns. -/
def span : Failure → Span
  | fault f => f.span
  | diagnostic d => d.span

end Failure

/-- A call that makes a compiler report an error with the given message. -/
def compileError (message : String) : Phrase :=
  (Path.ofNames true ["core", "compile_error"]).phrase ++ Phrase.sign "!" ++
    Phrase.group .brace (Phrase.verbatim [quoted message])

/-- The tokens that make a compiler report the failure. -/
def Failure.report (f : Failure) : List TokenTree := (compileError f.message).trees

/-- The item without the markers of a table on any of its fields. -/
def MarkerTable.strip (t : MarkerTable) (i : Item) : Item := i.strip t.isTag

/-- A failure in front of the item without markers. -/
def reportWith (f : Failure) (t : MarkerTable) (i : Item) : List TokenTree :=
  f.report ++ (t.strip i).trees

/-- The expansion of an item, or what is wrong with it. -/
def expansionOf (c : Config) (i : Item) : Except Failure Expansion := do
  let d ← (Declaration.ofItem c.markers i).mapError .fault
  (d.expand c).mapError .diagnostic

/-- The tokens for an item, or what is wrong with it. -/
def Config.expand (c : Config) (i : Item) : Except Failure (List TokenTree) := do
  return ((← expansionOf c i).emit c).trees

/-- The tokens for an item, or a failure in front of the item without markers. -/
def Config.expandOrReport (c : Config) (i : Item) : List TokenTree :=
  match c.expand i with
  | .ok tokens => tokens
  | .error f => reportWith f c.markers i

/-- The tokens that stand for an item with the attribute of the given arguments. -/
def applyAttribute (arguments item : List TokenTree) : List TokenTree :=
  match Item.read item with
  | .error fault => (Failure.fault fault).report ++ item
  | .ok i =>
    match Config.ofArguments arguments with
    | .error fault => reportWith (.fault fault) .default i
    | .ok c => c.expandOrReport i

end RequestGroups
