import RequestGroups.Grammar.Rules.Type

/-! # Reading patterns

* `patternRule`: a pattern without alternatives;
* `pattern`: a pattern with alternatives and an optional bar in front. -/

namespace RequestGroups.Grammar.Rules

open RequestGroups.Source Reader

/-- A phrase as a pattern that is no open range. -/
def closedPattern (phrase : Phrase) : PatternPhrase := ⟨none, phrase⟩

/-- Whether a bar stands here that separates alternatives. -/
def seesBar (ts : List TokenTree) : Bool :=
  Look.sign "|" ts && !Look.sign "||" ts && !Look.sign "|=" ts

/-- A pattern with alternatives and an optional bar in front. -/
def pattern (g : Nonterminals) : Reader PatternPhrase := do
  let bar ← sign? "|"
  let first ← g.pattern
  if bar.isNone && !(← sees seesBar) then return first
  let more ← iterate (fun done => do
    if !(← sees seesBar) then return none
    let bar ← sign "|"
    return some (done ++ bar ++ (← g.pattern).phrase)) []
  return closedPattern (bar.getD [] ++ first.phrase ++ more)

/-- A pattern with alternatives as a phrase. -/
def patternPhrase (g : Nonterminals) : Reader Phrase := do return (← pattern g).phrase

/-! ### Ranges -/

/-- The dots of a range, and whether the end belongs to it. -/
structure Limits where
  closed : Bool
  phrase : Phrase
  span : Span

/-- The dots of a range in a pattern; three dots are another way to write `..=`. -/
def patternLimits : Reader Limits := do
  let ts ← ahead
  if Look.sign "..=" ts then
    let (p, span) ← spanned (sign "..=")
    return ⟨true, p, span⟩
  if Look.sign "..." ts then
    let (_, span) ← spanned (sign "...")
    return ⟨true, Phrase.sign "..=", span⟩
  if Look.sign ".." ts then
    let (p, span) ← spanned (sign "..")
    return ⟨false, p, span⟩
  expectedKinds [Look.aSign ".."]

/-- What an end of a range may start with. -/
def startsOfEnd : List Look.Kind :=
  [Look.aLiteral, Look.anIdent, Look.aSign "::", Look.aSign "<", Look.aWord "self",
    Look.aWord "Self", Look.aWord "super", Look.aWord "crate", Look.aWord "const"]

/-- An end of a range, if there is one. -/
def rangeEnd (g : Nonterminals) : Reader (Option Phrase) := do
  let ts ← ahead
  let none? := ts.isEmpty || Look.sign "|" ts || Look.sign "=" ts || seesColon ts ||
    Look.sign "," ts || Look.sign ";" ts || Look.word "if" ts
  if none? then return none
  if Look.literal ts then return some (← literal)
  if Look.word "const" ts then return some ((← word "const") ++ (← blockWithAttributes g))
  if startsOfEnd.any (·.holds ts) then return some (← qualifiedPath g true).2
  expectedKinds startsOfEnd

/-- The dots and the end of a range that starts with a phrase. -/
def rangeFrom (g : Nonterminals) (start : Phrase) : Reader PatternPhrase := do
  let limits ← patternLimits
  match ← rangeEnd g with
  | some stop => return closedPattern (start ++ limits.phrase ++ stop)
  | none =>
    if limits.closed then expected ["range upper bound"]
    return ⟨some limits.span, start ++ limits.phrase⟩

/-- A range without start, or the rest of a sequence. -/
def rangeWithoutStart (g : Nonterminals) : Reader PatternPhrase := do
  let limits ← patternLimits
  match ← rangeEnd g with
  | some stop => return ⟨some limits.span, limits.phrase ++ stop⟩
  | none =>
    if limits.closed then expected ["range upper bound"]
    return closedPattern limits.phrase

/-! ### Structures -/

/-- A number that selects a component of a tuple. -/
def index? (text : String) : Option Nat :=
  if text.toList.all fun c => c.isDigit || c == '_' then
    (String.ofList (text.toList.filter Char.isDigit)).toNat?
  else none

/-- The number of a component as a phrase. -/
def indexPhrase (n : Nat) : Phrase := [.verbatim (.literal (toString n) .callSite)]

/-- A component: a name or a number. The flag tells whether it is a name. -/
def member : Reader (Bool × Phrase) := do
  match ← ahead with
  | .literal text _ :: _ =>
    match index? text with
    | some n =>
      let _ ← take 1
      return (false, indexPhrase n)
    | none => expected ["identifier or integer"]
  | ts =>
    if Look.ident ts then return (true, Phrase.ident (← ident))
    expected ["identifier or integer"]

/-- A field of a struct pattern. -/
def fieldPattern (g : Nonterminals) : Reader Phrase := do
  let boxed ← optionalWord "box"
  let byRef ← optionalWord "ref"
  let changing ← optionalWord "mut"
  let before := boxed ++ byRef ++ changing
  if !before.isEmpty then return before ++ Phrase.ident (← ident)
  let (named, name) ← member
  if named && !(← sees (Look.sign ":")) then return name
  return name ++ (← sign ":") ++ (← patternPhrase g)

/-- The fields of a struct pattern, with the rest of the fields as the last entry. -/
def fieldPatterns (g : Nonterminals) : Reader Phrase := do
  let (done, _) ← iterate (fun (done, more) => do
    if !more || (← atEnd) then return none
    let before ← attributes g
    if let some dots ← sign? ".." then return some (done ++ before ++ dots, false)
    let field ← fieldPattern g
    if ← atEnd then return some (done ++ before ++ field, false)
    return some (done ++ before ++ field ++ (← sign ","), true)) ([], true)
  return done

/-- A pattern that starts with a path. -/
def pathPattern (g : Nonterminals) : Reader PatternPhrase := do
  let (p?, phrase) ← qualifiedPath g true
  let ts ← ahead
  if p?.any Path.isPlain && Look.sign "!" ts && !Look.sign "!=" ts then
    return closedPattern (phrase ++ (← sign "!") ++ (← anyGroup))
  if Look.group .brace ts then return closedPattern (phrase ++ (← group .brace (fieldPatterns g)))
  if Look.group .paren ts then
    return closedPattern (phrase ++ (← group .paren (commaSeparated (patternPhrase g))))
  if Look.sign ".." ts then rangeFrom g phrase
  else return closedPattern phrase

/-- A name that is bound, with the pattern after `@`. -/
def bindingPattern (g : Nonterminals) : Reader Phrase := do
  let byRef ← optionalWord "ref"
  let changing ← optionalWord "mut"
  let name ← if ← sees (Look.word "self") then anyIdent else ident
  match ← sign? "@" with
  | some at' => return byRef ++ changing ++ Phrase.ident name ++ at' ++ (← g.pattern).phrase
  | none => return byRef ++ changing ++ Phrase.ident name

/-- A pattern in square brackets. -/
def slicePattern (g : Nonterminals) : Reader Phrase :=
  group .bracket <| commaSeparated do
    let p ← pattern g
    match p.openRange with
    | some span => fun _ => .error ⟨.openRangeInSlice, span⟩
    | none => return p.phrase

/-- A literal, or a range that starts with one. -/
def literalPattern (g : Nonterminals) : Reader PatternPhrase := do
  let start ← rangeEnd g
  if ← sees (Look.sign "..") then rangeFrom g (start.getD [])
  else return closedPattern (start.getD [])

/-- What a pattern may start with. -/
def startsOfPattern : List Look.Kind :=
  [Look.anIdent, Look.aSign "::", Look.aSign "<", Look.aWord "_", Look.aLiteral,
    Look.aWord "const", Look.aWord "ref", Look.aWord "mut", Look.aSign "&", Look.aGroup .paren,
    Look.aGroup .bracket, Look.aSign ".."]

/-- Whether a path stands here that is more than a name to bind. -/
def startsPathPattern (ts : List TokenTree) : Bool :=
  let next := Look.skip ts
  let goesOn := Look.sign "::" next || Look.sign "!" next || Look.group .brace next ||
    Look.group .paren next || Look.sign ".." next
  (Look.ident ts && goesOn) || (Look.word "self" ts && Look.sign "::" next) ||
    Look.sign "::" ts || Look.sign "<" ts || Look.word "Self" ts || Look.word "super" ts ||
    Look.word "crate" ts

/-- A pattern without alternatives. -/
def patternRule (g : Nonterminals) : Reader PatternPhrase := do
  let ts ← ahead
  if startsPathPattern ts then pathPattern g
  else if Look.word "_" ts then return closedPattern (← take 1)
  else if Look.word "box" ts then
    return closedPattern (← asWritten do let _ ← word "box"; g.pattern)
  else if Look.sign "-" ts || Look.literal ts || Look.word "const" ts then literalPattern g
  else if Look.word "ref" ts || Look.word "mut" ts || Look.word "self" ts || Look.ident ts then
    return closedPattern (← bindingPattern g)
  else if Look.sign "&" ts then
    let start ← sign "&"
    let changing ← optionalWord "mut"
    return closedPattern (start ++ changing ++ (← g.pattern).phrase)
  else if Look.group .paren ts then
    return closedPattern (← group .paren (commaSeparated (patternPhrase g)))
  else if Look.group .bracket ts then return closedPattern (← slicePattern g)
  else if Look.sign ".." ts && !Look.sign "..." ts then rangeWithoutStart g
  else expectedKinds startsOfPattern

end RequestGroups.Grammar.Rules
