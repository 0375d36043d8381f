import RequestGroups.Grammar.Rules.Function

/-! # Reading the members of traits, implementations and foreign blocks

* `traitMember`, `implMember` and `foreignMember`. Members that are accepted but have no regular
  form, such as a function without body in an implementation, are kept as they are written. -/

namespace RequestGroups.Grammar.Rules

open RequestGroups.Source Reader

/-! ### Parts that several items share -/

/-- Bounds with a plus between them, up to a stop. -/
def boundsBetween (g : Nonterminals) (place : BoundPlace) (stop : List TokenTree → Bool) :
    Reader Phrase := do
  let (done, _) ← iterate (fun (done, more) => do
    if !more || (← sees stop) then return none
    let b ← boundPhrase g place
    if ← sees stop then return some (done ++ b, false)
    return some (done ++ b ++ (← sign "+"), true)) ([], true)
  return done

/-- A colon and the bounds after it, up to a stop: the colon, and the whole if there is a bound. -/
def colonBounds (g : Nonterminals) (stop : List TokenTree → Bool) : Reader (Bool × Phrase) := do
  match ← sign? ":" with
  | none => return (false, [])
  | some colon =>
    let bounds ← boundsBetween g ⟨false, true⟩ stop
    return (true, if bounds.isEmpty then [] else colon ++ bounds)

/-- The places where a named type may have its `where` clause. -/
structure ClausePlaces where
  beforeValue : Bool
  afterValue : Bool

/-- A named type: a type alias or an associated type. -/
structure NamedType where
  name : Ident
  visibility : Phrase
  /-- The visibility and everything up to the parameters. -/
  head : Phrase
  colon : Bool
  bounds : Phrase
  /-- The equals sign and the type after it. -/
  value : Phrase
  clause : Phrase
  semicolon : Phrase

/-- A named type; `default` says whether the word of that name may stand in front of it. -/
def namedType (g : Nonterminals) (default : Bool) (places : ClausePlaces) : Reader NamedType := do
  let vis ← visibility
  let byDefault ← if default then optionalWord "default" else pure []
  let start ← word "type"
  let name ← ident
  let parameters ← genericParameters g
  let (colon, bounds) ← colonBounds g fun ts =>
    Look.word "where" ts || Look.sign "=" ts || Look.sign ";" ts
  let early ← if places.beforeValue then whereClause? g else pure none
  let value ← match ← sign? "=" with
    | some equals => pure (equals ++ (← g.typePhrase))
    | none => pure []
  let late ← if places.afterValue && early.isNone then whereClause? g else pure none
  let semicolon ← sign ";"
  return {
    name, visibility := vis, colon, bounds, value, semicolon
    head := vis ++ byDefault ++ start ++ Phrase.ident name ++ parameters.phrase
    clause := (early <|> late).getD [] }

/-- A constant behind the word `const`. -/
structure Constant where
  name : Ident
  /-- Whether the constant has neither parameters nor a `where` clause. -/
  regular : Bool
  hasValue : Bool
  phrase : Phrase

/-- A constant behind the word `const`, with its optional value. -/
def constant (g : Nonterminals) : Reader Constant := do
  let name ← anyIdent
  let parameters ← genericParameters g
  let colon ← sign ":"
  let type ← g.typePhrase
  let value ← match ← sign? "=" with
    | some equals => pure (equals ++ (← g.exprPhrase))
    | none => pure []
  let clause ← whereClause? g
  let semicolon ← sign ";"
  return {
    name
    regular := !parameters.brackets && clause.isNone
    hasValue := !value.isEmpty
    phrase := Phrase.ident name ++ colon ++ type ++ value ++ semicolon }

/-- Whether the name of a constant stands here. -/
def startsConstantName (ts : List TokenTree) : Bool := Look.ident ts || Look.word "_" ts

/-- A constant with the word `const`. -/
def constMember (g : Nonterminals) : Reader (Phrase × Constant) := do
  let start ← word "const"
  if !(← sees startsConstantName) then expectedKinds [Look.anIdent, Look.aWord "_"]
  return (start, ← constant g)

/-- A macro call with a semicolon, which braces do without. -/
def macroCall : Reader Phrase := do
  let name ← modPath
  let bang ← sign "!"
  let body ← anyGroup
  let semicolon ← if Phrase.endsInBrace body then pure [] else sign ";"
  return name.phrase ++ bang ++ body ++ semicolon

/-- What a macro call among items starts with. -/
def startsOfCall : List Look.Kind :=
  [Look.anIdent, Look.aWord "self", Look.aWord "super", Look.aWord "crate", Look.aSign "::"]

/-- Members in braces, with attributes at their start. -/
def members (g : Nonterminals) (member : Reader Phrase) : Reader Phrase :=
  group .brace do return Attribute.phraseOf (← innerAttributes g) ++ (← untilEnd member)

/-! ### Traits -/

/-- A function of a trait, with or without body. -/
def traitFunction (g : Nonterminals) : Reader Phrase := do
  let (_, _, head) ← signature g false
  return head ++ (← bodyOrSemicolon g).2

/-- A constant of a trait. -/
def traitConstant (g : Nonterminals) : Reader (Option Phrase) := do
  let next := Look.skip (← ahead)
  if startsConstantName next then
    let (start, c) ← constMember g
    return if c.regular then some (start ++ c.phrase) else none
  if ["async", "unsafe", "extern", "fn"].any (Look.word · next) then return some (← traitFunction g)
  let _ ← word "const"
  expectedKinds [Look.anIdent, Look.aWord "_", Look.aWord "async", Look.aWord "unsafe",
    Look.aWord "extern", Look.aWord "fn"]

/-- A member of a trait behind its attributes, its visibility and the word `default`; `plain` says
that the last two are missing. -/
def traitMemberRest (g : Nonterminals) (plain : Bool) : Reader (Option Phrase) := do
  let ts ← ahead
  if startsSignature false ts then return some (← traitFunction g)
  if Look.word "const" ts then return ← traitConstant g
  if Look.word "type" ts then
    let t ← namedType g false ⟨false, true⟩
    return some (t.head ++ t.bounds ++ t.value ++ t.clause ++ t.semicolon)
  if plain && startsOfCall.any (·.holds ts) then return some (← macroCall)
  expectedKinds ([Look.aWord "fn", Look.aWord "const", Look.aWord "type"] ++
    if plain then startsOfCall else [])

/-- A member of a trait. -/
def traitMember (g : Nonterminals) : Reader Phrase :=
  orAsWritten id do
    let before ← attributes g
    let vis ← visibility
    let byDefault ← optionalWord "default"
    let plain := vis.isEmpty && byDefault.isEmpty
    let member ← traitMemberRest g plain
    return if plain then member.map (before ++ ·) else none

/-! ### Implementations -/

/-- Whether the word `default` stands here as a word of its own. -/
def seesDefault (ts : List TokenTree) : Bool :=
  Look.word "default" ts && !Look.sign "!" (Look.skip ts)

/-- A member of an implementation. -/
def implMember (g : Nonterminals) : Reader Phrase :=
  orAsWritten id do
    let before ← attributes g
    let (vis, hasDefault, ts) ← lookAhead do
      let vis ← visibility
      let hasDefault ← sees seesDefault
      if hasDefault then let _ ← take 1
      return (vis, hasDefault, ← ahead)
    let plain := vis.isEmpty && !hasDefault
    if startsSignature false ts then
      let vis ← visibility
      let byDefault ← optionalWord "default"
      return (← function g (before ++ vis ++ byDefault)).map (·.2)
    if Look.word "const" ts then
      let vis ← visibility
      let byDefault ← optionalWord "default"
      let (start, c) ← constMember g
      return if c.regular && c.hasValue then
        some (before ++ vis ++ byDefault ++ start ++ c.phrase) else none
    if Look.word "type" ts then
      let t ← namedType g true ⟨false, true⟩
      return if t.colon || t.value.isEmpty then none
        else some (before ++ t.head ++ t.value ++ t.clause ++ t.semicolon)
    if plain && startsOfCall.any (·.holds ts) then return some (before ++ (← macroCall))
    let _ ← visibility
    if hasDefault then let _ ← take 1
    expectedKinds ((if hasDefault then [] else [Look.aWord "default"]) ++
      [Look.aWord "fn", Look.aWord "const", Look.aWord "type"] ++
      if plain then startsOfCall else [])

/-! ### Foreign blocks -/

/-- A foreign function. -/
def foreignFunction (g : Nonterminals) (before : Phrase) : Reader (Option Phrase) := do
  let vis ← visibility
  let (_, safe, head) ← signature g true
  let (body, stop) ← if ← sees (Look.group .brace) then bodyOrSemicolon g
    else pure (false, ← sign ";")
  return if safe || body then none else some (before ++ vis ++ head ++ stop)

/-- A foreign variable. -/
def foreignVariable (g : Nonterminals) (before : Phrase) : Reader (Option Phrase) := do
  let vis ← visibility
  let notSafe ← optionalWord "unsafe"
  let safe ← if notSafe.isEmpty then optionalWord "safe" else pure []
  let start ← word "static"
  let changing ← optionalWord "mut"
  let name ← ident
  let colon ← sign ":"
  let type ← g.typePhrase
  let hasValue := (← sign? "=").isSome
  if hasValue then let _ ← g.exprPhrase
  let semicolon ← sign ";"
  return if !notSafe.isEmpty || !safe.isEmpty || hasValue then none
    else some
      (before ++ vis ++ start ++ changing ++ Phrase.ident name ++ colon ++ type ++ semicolon)

/-- A member of a foreign block. -/
def foreignMember (g : Nonterminals) : Reader Phrase :=
  orAsWritten id do
    let before ← attributes g
    let (vis, ts) ← lookAhead do return (← visibility, ← ahead)
    let isVariable := Look.word "static" ts ||
      ((Look.word "unsafe" ts || Look.word "safe" ts) && Look.word "static" (Look.skip ts))
    if startsSignature true ts then return ← foreignFunction g before
    if isVariable then return ← foreignVariable g before
    if Look.word "type" ts then
      let t ← namedType g false ⟨true, true⟩
      return if t.colon || !t.value.isEmpty then none
        else some (before ++ t.head ++ t.clause ++ t.semicolon)
    if vis.isEmpty && startsOfCall.any (·.holds ts) then return some (before ++ (← macroCall))
    let _ ← visibility
    expectedKinds ([Look.aWord "fn", Look.aWord "static", Look.aWord "type"] ++
      if vis.isEmpty then startsOfCall else [])

end RequestGroups.Grammar.Rules
