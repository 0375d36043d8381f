import RequestGroups.Grammar.Attribute
import RequestGroups.Grammar.Reader

/-! # The kinds of phrases that contain one another

Types, expressions, patterns, statements and items contain one another without end. Each rule of
the grammar is written as a reader that takes the readers of these kinds as a parameter, a value of
`Nonterminals`; the recursion is closed in one place. -/

namespace RequestGroups.Grammar

open RequestGroups.Source

/-- What the rest of the grammar has to know about a type. -/
inductive TypeShape where
  /-- A path without a self type. -/
  | path (p : Path)
  /-- Bounds without `dyn`; `single` if there is one bound and no plus after it. -/
  | bounds (single : Bool)
  | other
  deriving Repr, Inhabited

/-- A type. -/
structure TypePhrase where
  shape : TypeShape
  phrase : Phrase
  deriving Repr, Inhabited

/-- What the rest of the grammar has to know about an expression. -/
inductive ExprShape where
  /-- A literal string and nothing else. -/
  | string (value : String)
  /-- A range at the outermost level. -/
  | range
  /-- A comparison at the outermost level. -/
  | comparison
  /-- A block, a conditional or a loop, which needs nothing after it as a statement. -/
  | block
  /-- A macro call. -/
  | call
  | other
  deriving Repr, DecidableEq, Inhabited

/-- An expression. -/
structure ExprPhrase where
  shape : ExprShape
  phrase : Phrase
  deriving Repr, Inhabited

/-- A pattern. -/
structure PatternPhrase where
  /-- The dots, if the pattern is a range that has no start or no end. -/
  openRange : Option Span
  phrase : Phrase
  deriving Repr, Inhabited

/-- How strongly an operator binds its operands. -/
inductive Precedence where
  | lowest | assign | range | or | and | compare | bitOr | bitXor | bitAnd | shift | sum | product
  | cast
  deriving Repr, DecidableEq

/-- The strength of an operator as a number. -/
def Precedence.level (p : Precedence) : Nat := p.ctorIdx

/-- Readers for the kinds of phrases that contain one another. -/
structure Nonterminals where
  /-- A type; whether bounds may be joined by a plus. -/
  type : (plus : Bool) → Reader TypePhrase
  /-- An expression; whether a struct literal may stand at its end. -/
  expr : (structs : Bool) → Reader ExprPhrase
  /-- An expression up to the first operator with two operands. -/
  unary : (structs : Bool) → Reader ExprPhrase
  /-- The rest of an expression whose operators bind at least as strongly as `base`. -/
  operators : (structs : Bool) → (base : Precedence) → (left : ExprPhrase) → Reader ExprPhrase
  /-- An expression as a statement or as the body of a match arm. -/
  statementExpr : Reader ExprPhrase
  /-- Generic arguments in angle brackets, without the `::` that may stand in front of them. -/
  arguments : Reader Phrase
  /-- A pattern without alternatives. -/
  pattern : Reader PatternPhrase
  /-- The statements of a block, up to the end of the input. -/
  statements : Reader Phrase
  /-- An item. -/
  item : Reader Phrase
  /-- One tree of a `use` item; whether trees in its braces may start with `::`. -/
  useTree : (rooted : Bool) → Reader Phrase

/-- A type as a phrase. -/
def Nonterminals.typePhrase (g : Nonterminals) : Reader Phrase := do return (← g.type true).phrase

/-- An expression as a phrase. -/
def Nonterminals.exprPhrase (g : Nonterminals) : Reader Phrase := do return (← g.expr true).phrase

end RequestGroups.Grammar
