import RequestGroups.Grammar.Rules.Statement

/-! # Reading functions

* `signature`: a function up to its body;
* `function`: a function of a module, an implementation or a trait, which may lack its body. -/

namespace RequestGroups.Grammar.Rules

open RequestGroups.Source Reader

/-- What a parameter of a function is. -/
inductive ParameterShape where
  /-- The receiver of a method, with the place of the word `self`. -/
  | receiver (span : Span)
  | typed
  /-- Dots that stand for any number of parameters. -/
  | variadic

/-- The receiver of a method. -/
def receiver (g : Nonterminals) : Reader (Span × Phrase) := do
  let reference ← match ← sign? "&" with
    | some start => pure (start ++ (← lifetime?))
    | none => pure []
  let changing ← optionalWord "mut"
  let (self, span) ← spanned (word "self")
  let type ← if reference.isEmpty then
      match ← sign? ":" with
      | some colon => pure (colon ++ (← g.typePhrase))
      | none => pure []
    else pure []
  return (span, reference ++ changing ++ self ++ type)

/-- A parameter of a function. A type that stands without a pattern gets the pattern `_`. -/
def functionInput (g : Nonterminals) : Reader (ParameterShape × Phrase) := do
  if let some (span, phrase) ← attempt (receiver g) then return (.receiver span, phrase)
  if ← sees fun ts => Look.ident ts && Look.sign "<" (Look.skip ts) then
    return (.typed, Phrase.word "_" ++ Phrase.sign ":" ++ (← g.typePhrase))
  let p ← g.pattern
  let colon ← sign ":"
  match ← sign? "..." with
  | some dots => return (.variadic, p.phrase ++ colon ++ dots)
  | none => return (.typed, p.phrase ++ colon ++ (← g.typePhrase))

/-- A comma, except at the end of the input. -/
def commaUnlessLast : Reader Phrase := do
  if ← atEnd then return [] else sign ","

/-- A receiver has to come first. -/
def checkReceiver (shape : ParameterShape) (another first : Bool) : Reader Unit :=
  match shape with
  | .receiver span =>
    if another || !first then fun _ => .error ⟨.lateReceiver another, span⟩ else pure ()
  | _ => pure ()

/-- The parameters of a function. -/
def functionInputs (g : Nonterminals) : Reader Phrase := do
  let (done, _, _) ← iterate (fun (done, another, more) => do
    if !more || (← atEnd) then return none
    let before ← attributes g
    if let some dots ← sign? "..." then
      return some (done ++ before ++ dots ++ (← commaUnlessLast), another, false)
    let (shape, phrase) ← functionInput g
    checkReceiver shape another done.isEmpty
    let done := done ++ before ++ phrase ++ (← commaUnlessLast)
    match shape with
    | .receiver _ => return some (done, true, true)
    | .typed => return some (done, another, true)
    | .variadic => return some (done, another, false)) ([], false, true)
  return done

/-- Whether the keywords of a function stand here, up to the word `fn`. -/
def startsSignature (safe : Bool) (ts : List TokenTree) : Bool :=
  let past := fun (name : String) ts => if Look.word name ts then Look.skip ts else ts
  let ts := past "async" (past "const" ts)
  let ts := if safe && Look.word "safe" ts then Look.skip ts else past "unsafe" ts
  let ts := if Look.word "extern" ts then
      if Look.string (Look.skip ts) then Look.skip (Look.skip ts) else Look.skip ts
    else ts
  Look.word "fn" ts

/-- A function up to its body, and whether it is marked as safe. -/
def signature (g : Nonterminals) (safe : Bool) : Reader (Ident × Bool × Phrase) := do
  let const ← optionalWord "const"
  let async ← optionalWord "async"
  let safety ← optionalWord "unsafe"
  let marked ← if safe && safety.isEmpty then optionalWord "safe" else pure []
  let abi ← convention
  let fn ← word "fn"
  let name ← ident
  let parameters ← genericParameters g
  let inputs ← group .paren (functionInputs g)
  let output ← returnType g true
  let clause ← whereClause g
  return (name, !marked.isEmpty, const ++ async ++ safety ++ marked ++ abi ++ fn ++
    Phrase.ident name ++ parameters.phrase ++ inputs ++ output ++ clause)

/-- The body of a function, or the semicolon in its place. -/
def bodyOrSemicolon (g : Nonterminals) : Reader (Bool × Phrase) := do
  let ts ← ahead
  if Look.group .brace ts then return (true, ← blockWithAttributes g)
  if Look.sign ";" ts then return (false, ← sign ";")
  expectedKinds [Look.aGroup .brace, Look.aSign ";"]

/-- A function with its body, and its name; a function without body is kept as it is written. -/
def function (g : Nonterminals) (before : Phrase) : Reader (Option (Ident × Phrase)) := do
  let (name, _, head) ← signature g false
  if (← sign? ";").isSome then return none
  return some (name, before ++ head ++ (← blockWithAttributes g))

end RequestGroups.Grammar.Rules
