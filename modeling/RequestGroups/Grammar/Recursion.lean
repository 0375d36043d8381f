import RequestGroups.Grammar.Rules.Item

/-! # Reading whole texts

The rules of the grammar take the readers of the phrases inside of a phrase as a parameter. Here
they are applied to one another: `level (n + 1)` are the rules over `level n`, and `level 0` reads
nothing. A rule that passes to another one has taken a token at the latest after a few steps, so
a level that grows with the number of tokens is never used up.

* `Item.read`, `TypePhrase.read`, `Path.read` and `visibilityOf` read a whole text of that kind;
* `Attribute.readAll` reads the attributes in front of a text. -/

namespace RequestGroups.Grammar

open RequestGroups.Source Reader

/-- No phrase at all. -/
def unreadable : Nonterminals where
  type _ := expected []
  expr _ := expected []
  unary _ := expected []
  operators _ _ _ := expected []
  statementExpr := expected []
  arguments := expected []
  pattern := expected []
  statements := expected []
  item := expected []
  useTree _ := expected []

/-- The rules over the readers of inner phrases. -/
def rules (g : Nonterminals) : Nonterminals where
  type := Rules.typeRule g
  expr := Rules.exprRule g
  unary := Rules.unaryRule g
  operators := Rules.operatorsRule g
  statementExpr := Rules.statementExprRule g
  arguments := Rules.genericArguments g
  pattern := Rules.patternRule g
  statements := Rules.statementsRule g
  item := do return (← Rules.itemRule g).phrase
  useTree := Rules.useTreeRule g

/-- The rules, applied to one another a number of times. -/
def level : Nat → Nonterminals
  | 0 => unreadable
  | n + 1 => rules (level n)

/-- The readers that are good for some token trees. -/
def grammar (ts : List TokenTree) : Nonterminals := level (8 * (TokenTree.countOf ts + 2))

/-- Reads token trees to their end; `scope` is blamed when they end too early. -/
def readAll (scope : Span) (r : Nonterminals → Reader α) (ts : List TokenTree) : Except Fault α :=
  run scope (r (grammar ts)) ts

/-- Reads an item. -/
def Item.read (ts : List TokenTree) : Except Fault Item := readAll .callSite Rules.itemRule ts

/-- Reads a type. -/
def TypePhrase.read (ts : List TokenTree) : Except Fault TypePhrase :=
  readAll .callSite (fun g => g.type true) ts

/-- Reads a path with generic arguments. -/
def Path.read (ts : List TokenTree) : Except Fault Path :=
  readAll .callSite (fun g => Rules.path g false) ts

/-- Reads attributes. -/
def Attribute.readAll (ts : List TokenTree) : Except Fault (List Attribute) :=
  Grammar.readAll .callSite Rules.outerAttributes ts

/-- Reads a visibility. -/
def visibilityOf (ts : List TokenTree) : Except Fault Phrase :=
  readAll .callSite (fun _ => Rules.visibility) ts

end RequestGroups.Grammar
