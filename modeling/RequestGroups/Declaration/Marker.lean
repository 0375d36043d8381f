import RequestGroups.Declaration.MarkerTable
import RequestGroups.Grammar.Recursion

/-! # Markers

A marker is an attribute on a field that gives the field its role, such as `#[header]` or
`#[body("payload")]`.

* `Marker.ofAttribute?` reads an attribute as a marker. The shape of the argument is never a fault:
  only a literal string that comes first counts as a key. -/

namespace RequestGroups

open Source Grammar

/-- The first argument of a marker. -/
inductive MarkerArgument where
  | none
  /-- A literal string with the given value. -/
  | string (value : String)
  /-- Anything else, which counts as no argument. -/
  | other
  deriving DecidableEq, Repr, Inhabited

/-- A marker attribute. -/
structure Marker where
  tag : Ident
  argument : MarkerArgument
  deriving DecidableEq, Repr, Inhabited

namespace MarkerArgument

/-- Expressions with commas between them. -/
def expressions (g : Nonterminals) : Reader (List ExprPhrase) := Reader.listOf (g.expr true)

/-- The argument that stands for the first of some expressions. -/
def ofExpressions : List ExprPhrase → MarkerArgument
  | [] => none
  | e :: _ =>
    match e.shape with
    | .string value => string value
    | _ => other

/-- Reads the argument of an attribute. -/
def ofArgument : Argument → MarkerArgument
  | .none => none
  | .list _ _ closes tokens =>
    match readAll closes expressions tokens with
    | .ok es => ofExpressions es
    | .error _ => other
  | .value .. => other

/-- The key that the argument gives. -/
def key? : MarkerArgument → Option String
  | string value => some value
  | _ => Option.none

end MarkerArgument

/-- Reads an attribute whose path is a single identifier. -/
def Marker.ofAttribute? (a : Attribute) : Option Marker :=
  a.tag?.map fun tag => ⟨tag, .ofArgument a.entry.argument⟩

end RequestGroups
