import RequestGroups.Grammar.Rules.Expression

/-! # Reading statements

* `statementsRule`: the statements of a block up to the end of the input. A statement that is an
  expression needs a semicolon behind it, unless it is the last one or ends with its block. -/

namespace RequestGroups.Grammar.Rules

open RequestGroups.Source Reader

/-- Whether an item starts here, behind its attributes. -/
def startsItem (ts : List TokenTree) : Bool :=
  let next := Look.skip ts
  let after := Look.skip next
  let w := fun name => Look.word name ts
  let n := fun name => Look.word name next
  let a := fun name => Look.word name after
  w "pub" || (w "crate" && !Look.sign "::" next) || w "extern" || w "use" ||
    (w "static" && (n "mut" || (Look.ident next &&
      !(n "async" && (a "move" || Look.sign "|" after))))) ||
    (w "const" && !(Look.group .brace next || n "static" ||
      (n "async" && !(a "unsafe" || a "extern" || a "fn")) || n "move" || Look.sign "|" next)) ||
    (w "unsafe" && !Look.group .brace next) ||
    (w "async" && (n "unsafe" || n "extern" || n "fn")) ||
    w "fn" || w "mod" || w "type" || w "struct" || w "enum" ||
    (w "union" && Look.ident next) || (w "auto" && n "trait") || w "trait" ||
    (w "default" && (n "unsafe" || n "impl")) || w "impl" || w "macro"

/-- A macro call at the start of a statement. -/
inductive StatementMacro where
  /-- The definition of a named macro, which is an item. -/
  | definition
  /-- A call in braces that no operator goes on with. -/
  | call
  | none

/-- Looks for a macro call at the start of a statement, behind its attributes. -/
def statementMacro : Reader StatementMacro := do
  let rest ← lookAhead (attempt do let _ ← modPath; ahead)
  match rest with
  | some ts =>
    if !Look.sign "!" ts then return .none
    let next := Look.skip ts
    if Look.ident next || Look.word "try" next then return .definition
    if Look.group .brace next && !seesTrailer (Look.skip next) then return .call
    return .none
  | none => return .none

/-- A variable with its pattern, type, value and alternative block. -/
def localStatement (g : Nonterminals) : Reader Phrase := do
  let start ← word "let"
  let p ← g.pattern
  let type ← match ← sign? ":" with
    | some colon => pure (colon ++ (← g.typePhrase))
    | none => pure []
  let value ← match ← sign? "=" with
    | some equals =>
      let e ← g.exprPhrase
      let otherwise ← if !e.endsInBrace then
          match ← word? "else" with
          | some other => pure (other ++ (← block g))
          | none => pure []
        else pure []
      pure (equals ++ e ++ otherwise)
    | none => pure []
  return start ++ p.phrase ++ type ++ value ++ (← sign ";")

/-- An expression statement, and whether a semicolon is missing behind it. -/
def exprStatement (g : Nonterminals) : Reader (Phrase × Bool) := do
  let e ← g.statementExpr
  match ← sign? ";" with
  | some semi => return (e.phrase ++ semi, false)
  | none =>
    let complete := e.shape = .block || (e.shape = .call && e.phrase.endsInBrace)
    return (e.phrase, !complete)

/-- A statement, and whether a semicolon is missing behind it. -/
def statement (g : Nonterminals) : Reader (Phrase × Bool) := do
  let (kind, ts) ← lookAhead do
    let _ ← outerAttributes g
    return (← statementMacro, ← ahead)
  match kind with
  | .call =>
    let before ← attributes g
    let name ← modPath
    let bang ← sign "!"
    let body ← anyGroup
    return (before ++ name.phrase ++ bang ++ body ++ (← sign? ";").getD [], false)
  | .definition => return (← g.item, false)
  | .none =>
    if Look.word "let" ts then return ((← attributes g) ++ (← localStatement g), false)
    if startsItem ts then return (← g.item, false)
    let before ← attributes g
    let (phrase, missing) ← exprStatement g
    return (before ++ phrase, missing)

/-- The statements of a block. -/
def statementsRule (g : Nonterminals) : Reader Phrase :=
  iterate (fun done => do
    if ← atEnd then return none
    if let some semi ← sign? ";" then return some (done ++ semi)
    let (phrase, missing) ← statement g
    if missing && !(← atEnd) then expected ["`;`"]
    return some (done ++ phrase)) []

end RequestGroups.Grammar.Rules
