import RequestGroups.Grammar.Path

/-! # Attributes

An attribute is a path with an argument: nothing, tokens in delimiters that are not read further,
or an expression after `=`. The entries of an argument list such as `rename = "key", default` have
the same form.

* `Attribute.phrase` and `Attribute.trees` write an attribute;
* `Attribute.tag?` is the path if it is a single identifier, which is what markers go by;
* `Attribute.strip` removes field attributes inside of the attribute. -/

namespace RequestGroups.Grammar

open RequestGroups.Source

/-- What follows the path of an attribute. -/
inductive Argument where
  | none
  | list (d : Delimiter) (opens closes : Span) (tokens : List TokenTree)
  | value (equals : Span) (expression : Phrase) (string? : Option String)
  deriving Repr, Inhabited

/-- A path with an argument. -/
structure Entry where
  path : Path
  argument : Argument
  span : Span
  deriving Repr, Inhabited

/-- An entry in brackets after `#`; with `inner`, after `#!`. -/
structure Attribute where
  inner : Bool
  entry : Entry
  deriving Repr, Inhabited

/-- The argument as a phrase. -/
def Argument.phrase : Argument → Phrase
  | none => []
  | list d opens closes tokens => [.verbatim (.group d opens closes tokens)]
  | value _ expression _ => Phrase.sign "=" ++ expression

/-- Removes field attributes inside of the argument. -/
def Argument.strip (chosen : String → Bool) : Argument → Argument
  | value equals expression s => value equals (expression.strip chosen) s
  | other => other

/-- The entry as a phrase. -/
def Entry.phrase (e : Entry) : Phrase := e.path.phrase ++ e.argument.phrase

/-- Removes field attributes inside of the entry. -/
def Entry.strip (chosen : String → Bool) (e : Entry) : Entry :=
  { e with path := e.path.strip chosen, argument := e.argument.strip chosen }

namespace Attribute

/-- The attribute as a phrase. -/
def phrase (a : Attribute) : Phrase :=
  Phrase.sign "#" ++ (if a.inner then Phrase.sign "!" else []) ++
    Phrase.group .bracket a.entry.phrase

/-- The attribute as token trees. -/
def trees (a : Attribute) : List TokenTree := a.phrase.trees

/-- The path of the attribute. -/
def path (a : Attribute) : Path := a.entry.path

/-- The single identifier that the path consists of. -/
def tag? (a : Attribute) : Option Ident := a.path.ident?

/-- Whether the attribute is documentation. -/
def isDoc (a : Attribute) : Bool := a.path.isName "doc"

/-- The attribute as a phrase that marks it as standing on a field. -/
def fieldPhrase (a : Attribute) : Phrase :=
  [.fieldAttribute (a.tag?.map Ident.spelling) a.phrase]

/-- Removes field attributes inside of the attribute. -/
def strip (chosen : String → Bool) (a : Attribute) : Attribute :=
  { a with entry := a.entry.strip chosen }

/-- Attributes one after the other. -/
def phraseOf (as : List Attribute) : Phrase := as.flatMap phrase

/-- Attributes one after the other, as token trees. -/
def treesOf (as : List Attribute) : List TokenTree := as.flatMap trees

end Attribute

end RequestGroups.Grammar
