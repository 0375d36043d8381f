import RequestGroups.Grammar.Rules.Pattern

/-! # Reading expressions

* `exprRule`: an expression; whether a struct literal may stand at its end is a parameter, since
  the condition of an `if` is followed by a block;
* `unaryRule` and `operatorsRule`: an operand, and the operators after it by precedence;
* `statementExpr`: an expression as a statement or as the body of a match arm, where a block ends
  the expression. -/

namespace RequestGroups.Grammar.Rules

open RequestGroups.Source Reader

/-- A phrase as an expression without further structure. -/
def plainExpr (phrase : Phrase) : ExprPhrase := ⟨.other, phrase⟩

/-- A phrase as an expression that needs nothing after it as a statement. -/
def blockExpr (phrase : Phrase) : ExprPhrase := ⟨.block, phrase⟩

/-! ### Operators -/

/-- The operators with two operands; a sign that another one starts with comes behind it. -/
def binaryOperators : List (String × Precedence) :=
  [("+=", .assign), ("-=", .assign), ("*=", .assign), ("/=", .assign), ("%=", .assign),
    ("^=", .assign), ("&=", .assign), ("|=", .assign), ("<<=", .assign), (">>=", .assign),
    ("&&", .and), ("||", .or), ("<<", .shift), (">>", .shift), ("==", .compare), ("<=", .compare),
    ("!=", .compare), (">=", .compare), ("+", .sum), ("-", .sum), ("*", .product),
    ("/", .product), ("%", .product), ("^", .bitXor), ("&", .bitAnd), ("|", .bitOr),
    ("<", .compare), (">", .compare)]

/-- The operator with two operands that stands here. -/
def binaryOperator? (ts : List TokenTree) : Option (String × Precedence) :=
  binaryOperators.find? fun o => Look.sign o.1 ts

/-- Whether a plain assignment stands here. -/
def seesAssign (ts : List TokenTree) : Bool := Look.sign "=" ts && !Look.sign "=>" ts

/-- The strength of the operator that stands here. -/
def nextPrecedence (ts : List TokenTree) : Precedence :=
  match binaryOperator? ts with
  | some (_, p) => p
  | none =>
    if seesAssign ts then .assign
    else if Look.sign ".." ts then .range
    else if Look.word "as" ts then .cast
    else .lowest

/-- The right operand of an operator of the given strength. -/
def rightOperand (g : Nonterminals) (structs : Bool) (p : Precedence) : Reader ExprPhrase := do
  let first ← g.unary structs
  iterate (fun left => do
    let next := nextPrecedence (← ahead)
    if p.level < next.level || (next = p && p = .assign) then
      return some (← g.operators structs next left)
    return none) first

/-- The dots of a range. -/
def limits : Reader Limits := do
  let ts ← ahead
  if Look.sign "..=" ts then
    let (p, span) ← spanned (sign "..=")
    return ⟨true, p, span⟩
  if Look.sign ".." ts && !Look.sign "..." ts then
    let (p, span) ← spanned (sign "..")
    return ⟨false, p, span⟩
  expectedKinds [Look.aSign "..", Look.aSign "..="]

/-- Whether a range without end stops here. -/
def endsRange (structs : Bool) (ts : List TokenTree) : Bool :=
  ts.isEmpty || Look.sign "," ts || Look.sign ";" ts ||
    (Look.sign "." ts && !Look.sign ".." ts) || Look.sign "?" ts || Look.sign "=>" ts ||
    (!structs && Look.group .brace ts) ||
    ["=", "+", "/", "%", "^", ">", "<=", "!=", "-=", "*=", "&=", "|=", "<<="].any
      (fun s => Look.sign s ts) ||
    Look.word "as" ts

/-- The dots and the end of a range. -/
def rangeTail (g : Nonterminals) (structs : Bool) : Reader Phrase := do
  let dots ← limits
  if !dots.closed && (← sees (endsRange structs)) then return dots.phrase
  return dots.phrase ++ (← rightOperand g structs .range).phrase

/-- A cast must not be followed by anything that binds more strongly. -/
def checkCast : Reader Unit := do
  let ts ← ahead
  let refuse := fun what => faultHere (.afterCast what)
  if Look.sign "." ts && !Look.sign ".." ts then
    let next := Look.skip ts
    let after := Look.skip next
    if Look.word "await" next then refuse "`.await`"
    else if Look.ident next && (Look.group .paren after || Look.sign "::" after) then
      refuse "a method call"
    else refuse "a field access"
  else if Look.sign "?" ts then refuse "`?`"
  else if Look.group .bracket ts then refuse "indexing"
  else if Look.group .paren ts then refuse "a function call"

/-- One more operator after an operand, if it binds at least as strongly as `base`. -/
def operatorStep (g : Nonterminals) (structs : Bool) (base : Precedence) (left : ExprPhrase) :
    Reader (Option ExprPhrase) := do
  let ts ← ahead
  if left.shape = .range then return none
  match binaryOperator? ts with
  | some (text, p) =>
    if p.level < base.level then return none
    if p = .compare && left.shape = .comparison then faultHere .comparisonChain
    let op ← sign text
    let right ← rightOperand g structs p
    let shape := if p = .compare then ExprShape.comparison else .other
    return some ⟨shape, left.phrase ++ op ++ right.phrase⟩
  | none =>
    if base.level ≤ Precedence.assign.level && seesAssign ts then
      let op ← sign "="
      return some (plainExpr (left.phrase ++ op ++ (← rightOperand g structs .assign).phrase))
    else if base.level ≤ Precedence.range.level && Look.sign ".." ts then
      return some ⟨.range, left.phrase ++ (← rangeTail g structs)⟩
    else if base.level ≤ Precedence.cast.level && Look.word "as" ts then
      let as ← word "as"
      let type ← g.type false
      checkCast
      return some (plainExpr (left.phrase ++ as ++ type.phrase))
    else return none

/-- The operators after an operand that bind at least as strongly as `base`. -/
def operatorsRule (g : Nonterminals) (structs : Bool) (base : Precedence) (left : ExprPhrase) :
    Reader ExprPhrase :=
  iterate (operatorStep g structs base) left

/-- An expression. -/
def exprRule (g : Nonterminals) (structs : Bool) : Reader ExprPhrase := do
  g.operators structs .lowest (← g.unary structs)

/-! ### Blocks and control flow -/

/-- A conditional. -/
def ifExpr (g : Nonterminals) : Reader Phrase := do
  let (done, _) ← iterate (fun (done, more) => do
    if !more then return none
    let start ← word "if"
    let condition ← g.expr false
    let done := done ++ start ++ condition.phrase ++ (← block g)
    match ← word? "else" with
    | none => return some (done, false)
    | some other =>
      let ts ← ahead
      if Look.word "if" ts then return some (done ++ other, true)
      if Look.group .brace ts then return some (done ++ other ++ (← block g), false)
      expectedKinds [Look.aWord "if", Look.aGroup .brace]) ([], true)
  return done

/-- A loop with a condition. -/
def whileExpr (g : Nonterminals) : Reader Phrase := do
  return (← word "while") ++ (← g.expr false).phrase ++ (← blockWithAttributes g)

/-- A loop over the elements of something. -/
def forExpr (g : Nonterminals) : Reader Phrase := do
  let start ← word "for"
  let element ← patternPhrase g
  return start ++ element ++ (← word "in") ++ (← g.expr false).phrase ++ (← blockWithAttributes g)

/-- A loop without a condition. -/
def loopExpr (g : Nonterminals) : Reader Phrase := do
  return (← word "loop") ++ (← blockWithAttributes g)

/-- A block behind a label or a loop behind one. -/
def labelled (g : Nonterminals) : Reader ExprPhrase := do
  let label := (← lifetime) ++ (← sign ":")
  let ts ← ahead
  let body ← if Look.word "while" ts then whileExpr g
    else if Look.word "for" ts then forExpr g
    else if Look.word "loop" ts then loopExpr g
    else if Look.group .brace ts then blockWithAttributes g
    else expected ["loop or block expression"]
  return blockExpr (label ++ body)

/-- Whether a dot stands here that starts no range, or a question mark. -/
def seesTrailer (ts : List TokenTree) : Bool :=
  (Look.sign "." ts && !Look.sign ".." ts) || Look.sign "?" ts

/-- Whether `for` stands here in front of the lifetimes of a closure. -/
def startsBinder (ts : List TokenTree) : Bool :=
  let next := Look.skip ts
  let after := Look.skip next
  Look.word "for" ts && Look.sign "<" next && (Look.lifetime after || Look.sign ">" after)

/-! ### Operands -/

/-- The arguments of a call. -/
def callArguments (g : Nonterminals) : Reader Phrase :=
  group .paren (commaSeparated g.exprPhrase)

/-- A dot and what it selects. -/
def selection (g : Nonterminals) : Reader Phrase := do
  let dot ← sign "."
  match ← ahead with
  | .literal text _ :: _ =>
    if text.toList.contains '.' then
      let _ ← take 1
      let parts := (text.splitOn ".").filterMap index?
      return dot ++ (List.intercalate (Phrase.sign ".") (parts.map indexPhrase))
    else return dot ++ (← member).2
  | ts =>
    if Look.word "await" ts then return dot ++ (← word "await")
    let (_, name) ← member
    let turbofish ← match ← sign? "::" with
      | some colons => pure (colons ++ (← g.arguments))
      | none => pure []
    if !turbofish.isEmpty || (← sees (Look.group .paren)) then
      return dot ++ name ++ turbofish ++ (← callArguments g)
    return dot ++ name

/-- Calls, selections, indices and question marks after an operand. -/
def trailers (g : Nonterminals) (e : ExprPhrase) : Reader ExprPhrase :=
  iterate (fun e => do
    let ts ← ahead
    let isRange := e.shape = .range
    if Look.group .paren ts then return some (plainExpr (e.phrase ++ (← callArguments g)))
    else if Look.sign "." ts && !Look.sign ".." ts && !isRange then
      return some (plainExpr (e.phrase ++ (← selection g)))
    else if Look.group .bracket ts then
      return some (plainExpr (e.phrase ++ (← group .bracket g.exprPhrase)))
    else if Look.sign "?" ts && !isRange then return some (plainExpr (e.phrase ++ (← sign "?")))
    else return none) e

/-- A field of a struct literal. -/
def fieldValue (g : Nonterminals) : Reader Phrase := do
  let before ← attributes g
  let (named, name) ← member
  if named && !(← sees (Look.sign ":")) then return before ++ name
  return before ++ name ++ (← sign ":") ++ (← g.exprPhrase)

/-- The fields of a struct literal, with the base for the other fields as the last entry. -/
def fieldValues (g : Nonterminals) : Reader Phrase := do
  let (done, _) ← iterate (fun (done, more) => do
    if !more || (← atEnd) then return none
    if let some dots ← sign? ".." then
      let base ← if ← atEnd then pure [] else g.exprPhrase
      return some (done ++ dots ++ base, false)
    let field ← fieldValue g
    if ← atEnd then return some (done ++ field, false)
    return some (done ++ field ++ (← sign ","), true)) ([], true)
  return done

/-- A path, a macro call or a struct literal. -/
def pathExpr (g : Nonterminals) (structs : Bool) : Reader ExprPhrase := do
  let (p?, phrase) ← qualifiedPath g true
  let ts ← ahead
  if p?.any Path.isPlain && Look.sign "!" ts && !Look.sign "!=" ts then
    return ⟨.call, phrase ++ (← sign "!") ++ (← anyGroup)⟩
  if structs && Look.group .brace ts then
    return plainExpr (phrase ++ (← group .brace (fieldValues g)))
  return plainExpr phrase

/-- An array, or an element that is repeated. -/
def arrayExpr (g : Nonterminals) : Reader Phrase :=
  group .bracket do
    if ← atEnd then return []
    let first ← g.exprPhrase
    if ← atEnd then return first
    if let some comma ← sign? "," then
      return first ++ comma ++ (← commaSeparated g.exprPhrase)
    if let some semi ← sign? ";" then return first ++ semi ++ (← g.exprPhrase)
    expected ["`,` or `;`"]

/-- A parameter of a closure. -/
def closureParameter (g : Nonterminals) : Reader Phrase := do
  let before ← attributes g
  let p ← g.pattern
  match ← sign? ":" with
  | some colon => return before ++ p.phrase ++ colon ++ (← g.typePhrase)
  | none => return before ++ p.phrase

/-- A closure. -/
def closureExpr (g : Nonterminals) (structs : Bool) : Reader Phrase := do
  let names ← binder? g
  let const ← optionalWord "const"
  let static ← optionalWord "static"
  let async ← optionalWord "async"
  let move ← optionalWord "move"
  let start ← sign "|"
  let inputs ← separated (sign ",") (sees (Look.sign "|")) (closureParameter g)
  let stop ← sign "|"
  let head := names ++ const ++ static ++ async ++ move ++ start ++ inputs ++ stop
  match ← sign? "->" with
  | some arrow => return head ++ arrow ++ (← g.typePhrase) ++ (← block g)
  | none => return head ++ (← g.expr structs).phrase

/-- Whether an expression may start here. -/
def startsExpr (ts : List TokenTree) : Bool :=
  let butNot := fun (s : String) (others : List String) =>
    Look.sign s ts && !others.any fun o => Look.sign o ts
  Look.anyWord ts || Look.group .paren ts || Look.group .bracket ts || Look.group .brace ts ||
    Look.literal ts || butNot "!" ["!="] || butNot "-" ["-=", "->"] || butNot "*" ["*="] ||
    butNot "|" ["|="] || butNot "&" ["&="] || Look.sign ".." ts || butNot "<" ["<=", "<<="] ||
    Look.sign "::" ts || Look.lifetime ts || Look.sign "#" ts

/-- A `break` with its label and its value. -/
def breakExpr (g : Nonterminals) (structs : Bool) : Reader Phrase := do
  let start ← word "break"
  let ts ← ahead
  if Look.lifetime ts && Look.sign ":" (Look.skip ts) then
    let (_, span) ← spanned (g.expr true)
    fun _ => .error ⟨.labelAfterBreak, span⟩
  else
    let label ← lifetime?
    let ts ← ahead
    if startsExpr ts && (structs || !Look.group .brace ts) then
      return start ++ label ++ (← g.expr structs).phrase
    return start ++ label

/-- A word with an optional value after it. -/
def wordWithValue (g : Nonterminals) (name : String) : Reader Phrase := do
  let start ← word name
  if ← sees startsExpr then return start ++ (← g.exprPhrase) else return start

/-- A pattern that is matched in a condition. -/
def letExpr (g : Nonterminals) (structs : Bool) : Reader Phrase := do
  let start ← word "let"
  let p ← patternPhrase g
  let equals ← sign "="
  let left ← g.unary structs
  return start ++ p ++ equals ++ (← g.operators structs .compare left).phrase

/-- A built-in operation, kept as it is written. -/
def builtinExpr : Reader Phrase :=
  asWritten do
    let _ ← word "builtin"
    let _ ← sign "#"
    let _ ← ident
    inGroup .paren (modify fun i => { i with rest := [] })

/-- Whether a closure starts here. -/
def startsClosure (ts : List TokenTree) : Bool :=
  let next := Look.skip ts
  Look.sign "|" ts || Look.word "move" ts || startsBinder ts ||
    (Look.word "const" ts && !Look.group .brace next) ||
    (Look.word "static" ts && !Look.group .brace next) ||
    (Look.word "async" ts && (Look.sign "|" next || Look.word "move" next))

/-- Whether an asynchronous block starts here. -/
def startsAsyncBlock (ts : List TokenTree) : Bool :=
  let next := Look.skip ts
  Look.word "async" ts &&
    (Look.group .brace next || (Look.word "move" next && Look.group .brace (Look.skip next)))

/-- Whether a path starts here. -/
def startsPath (ts : List TokenTree) : Bool :=
  let next := Look.skip ts
  Look.ident ts || Look.sign "::" ts || Look.sign "<" ts || Look.word "Self" ts ||
    seesModuleWord ts || (Look.word "try" ts && (Look.sign "!" next || Look.sign "::" next))

/-- A pattern, a guard and a body. -/
def armHead (g : Nonterminals) : Reader Phrase := do
  let before ← attributes g
  let p ← patternPhrase g
  let guard ← match ← word? "if" with
    | some start => pure (start ++ (← g.exprPhrase))
    | none => pure []
  return before ++ p ++ guard ++ (← sign "=>")

/-- Whether an expression needs a comma after it as the body of a match arm. -/
def needsComma (e : ExprPhrase) : Bool := e.shape != .block

/-- A choice between patterns. -/
def matchExpr (g : Nonterminals) : Reader Phrase := do
  let start ← word "match"
  let subject ← g.expr false
  let arms ← group .brace do
    let inner := Attribute.phraseOf (← innerAttributes g)
    let arms ← untilEnd do
      let head ← armHead g
      let body ← g.statementExpr
      let comma ← if needsComma body && !(← atEnd) then sign ","
        else pure ((← sign? ",").getD [])
      return head ++ body.phrase ++ comma
    return inner ++ arms
  return start ++ subject.phrase ++ arms

/-- An operand without what may follow it. -/
def atom (g : Nonterminals) (structs : Bool) : Reader ExprPhrase := do
  let ts ← ahead
  let next := Look.skip ts
  if Look.literal ts then
    return ⟨((stringValue? ts).map ExprShape.string).getD .other, ← literal⟩
  if startsAsyncBlock ts then
    return plainExpr ((← word "async") ++ (← optionalWord "move") ++ (← block g))
  if Look.word "try" ts && Look.group .brace next then
    return blockExpr ((← word "try") ++ (← block g))
  if startsClosure ts then return plainExpr (← closureExpr g structs)
  if Look.word "builtin" ts && Look.sign "#" next then return plainExpr (← builtinExpr)
  if startsPath ts then return ← pathExpr g structs
  if Look.group .paren ts then
    return plainExpr (← group .paren (commaSeparated g.exprPhrase))
  if Look.word "break" ts then return plainExpr (← breakExpr g structs)
  if Look.word "continue" ts then return plainExpr ((← word "continue") ++ (← lifetime?))
  if Look.word "return" ts then return plainExpr (← wordWithValue g "return")
  if Look.word "become" ts then
    return plainExpr (← asWritten do let _ ← word "become"; g.exprPhrase)
  if Look.group .bracket ts then return plainExpr (← arrayExpr g)
  if Look.word "let" ts then return plainExpr (← letExpr g structs)
  if Look.word "if" ts then return blockExpr (← ifExpr g)
  if Look.word "while" ts then return blockExpr (← whileExpr g)
  if Look.word "for" ts then return blockExpr (← forExpr g)
  if Look.word "loop" ts then return blockExpr (← loopExpr g)
  if Look.word "match" ts then return blockExpr (← matchExpr g)
  if Look.word "yield" ts then return plainExpr (← wordWithValue g "yield")
  if Look.word "unsafe" ts then
    return blockExpr ((← word "unsafe") ++ (← blockWithAttributes g))
  if Look.word "const" ts then return blockExpr ((← word "const") ++ (← blockWithAttributes g))
  if Look.group .brace ts then return blockExpr (← blockWithAttributes g)
  if Look.sign ".." ts then return ⟨.range, ← rangeTail g structs⟩
  if Look.word "_" ts then return plainExpr (← take 1)
  if Look.lifetime ts then return ← labelled g
  expected ["an expression"]

/-- A reference to something, plain or raw, after its sign. -/
def referenceMarks : Reader Phrase := do
  let ts ← ahead
  let next := Look.skip ts
  if Look.word "raw" ts && (Look.word "mut" next || Look.word "const" next) then take 2
  else optionalWord "mut"

/-- An operand with its attributes, the signs in front of it and what follows it. -/
def unaryRule (g : Nonterminals) (structs : Bool) : Reader ExprPhrase := do
  let before ← attributes g
  let ts ← ahead
  if Look.sign "&" ts then
    let start ← sign "&"
    let marks ← referenceMarks
    return plainExpr (before ++ start ++ marks ++ (← g.unary structs).phrase)
  if let some op := ["*", "!", "-"].find? (Look.sign · ts) then
    return plainExpr (before ++ (← sign op) ++ (← g.unary structs).phrase)
  let start := headSpan (← get)
  let e ← trailers g (← atom g structs)
  if !before.isEmpty && e.shape = .range then
    fun _ => .error ⟨.attributeOnRange, start⟩
  else return { e with phrase := before ++ e.phrase }

/-- An expression that ends with its block if it starts with one, unless a dot or a question mark
goes on with it. -/
def statementExprRule (g : Nonterminals) : Reader ExprPhrase := do
  let before ← attributes g
  let ts ← ahead
  let next := Look.skip ts
  let block? : Option (Reader ExprPhrase) :=
    if Look.word "if" ts then some (blockExpr <$> ifExpr g)
    else if Look.word "while" ts then some (blockExpr <$> whileExpr g)
    else if Look.word "for" ts && !startsBinder ts then some (blockExpr <$> forExpr g)
    else if Look.word "loop" ts then some (blockExpr <$> loopExpr g)
    else if Look.word "match" ts then some (blockExpr <$> matchExpr g)
    else if Look.word "try" ts && Look.group .brace next then
      some (blockExpr <$> do return (← word "try") ++ (← block g))
    else if Look.word "unsafe" ts then
      some (blockExpr <$> do return (← word "unsafe") ++ (← blockWithAttributes g))
    else if Look.word "const" ts && Look.group .brace next then
      some (blockExpr <$> do return (← word "const") ++ (← blockWithAttributes g))
    else if Look.group .brace ts then some (blockExpr <$> blockWithAttributes g)
    else if Look.lifetime ts then some (labelled g)
    else none
  match block? with
  | none =>
    let e ← g.unary true
    let e ← if e.shape = .block then pure e else g.operators true .lowest e
    return { e with phrase := before ++ e.phrase }
  | some read =>
    let e ← read
    if ← sees seesTrailer then
      let e ← trailers g e
      let e ← g.operators true .lowest e
      return { e with phrase := before ++ e.phrase }
    return { e with phrase := before ++ e.phrase }

end RequestGroups.Grammar.Rules
