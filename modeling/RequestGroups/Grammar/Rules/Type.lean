import RequestGroups.Grammar.Rules.Generics

/-! # Reading types

* `typeRule`: any type; whether bounds may be joined by a plus is a parameter, since a reference
  or a pointer binds more strongly than a plus. -/

namespace RequestGroups.Grammar.Rules

open RequestGroups.Source Reader

/-- A phrase as a type without further structure. -/
def plainType (phrase : Phrase) : TypePhrase := ⟨.other, phrase⟩

/-- The fault of bounds without a trait. -/
def requireTrait (start : Span) (stop : Span) (message : String) (anyTrait : Bool) : Reader Unit :=
  if anyTrait then pure () else fun _ => .error ⟨.noTrait message, start.through stop⟩

/-- Bounds of which one has to be a trait. -/
def traitBounds (g : Nonterminals) (start : Span) (plus : Bool) (place : BoundPlace)
    (message : String) : Reader Phrase := do
  let ((anyTrait, phrase), span) ← spanned (bounds g plus place)
  requireTrait start span message anyTrait
  return phrase

/-- The bounds of a trait object. -/
def objectBounds (g : Nonterminals) (start : Span) (plus : Bool) : Reader Phrase :=
  traitBounds g start plus ⟨false, true⟩ "at least one trait is required for an object type"

/-- More bounds, each after a plus. -/
def moreBounds (g : Nonterminals) : Reader Phrase :=
  iterate (fun done => do
    match ← sign? "+" with
    | some plus => return some (done ++ plus ++ (← boundPhrase g ⟨false, false⟩))
    | none => return none) []

/-- More bounds, each after a plus; the last plus may have nothing after it. -/
def openBounds (g : Nonterminals) : Reader Phrase := do
  let (done, _) ← iterate (fun (done, more) => do
    if !more then return none
    match ← sign? "+" with
    | none => return none
    | some plus =>
      if !(← sees (startsBound ⟨false, false⟩)) then return some (done ++ plus, false)
      return some (done ++ plus ++ (← boundPhrase g ⟨false, false⟩), true)) ([], true)
  return done

/-- The contents of a pair of parentheses in a type. -/
inductive Parenthesized where
  /-- A complete type: a tuple, or a trait object of a lifetime. -/
  | complete (phrase : Phrase)
  /-- A bound with a question mark. -/
  | maybe (phrase : Phrase)
  /-- A type in parentheses. -/
  | inner (type : TypePhrase)

/-- Reads the contents of parentheses. -/
def parenthesizedContents (g : Nonterminals) : Reader Parenthesized := do
  if ← atEnd then return .complete []
  let ts ← ahead
  if Look.lifetime ts then return .complete (← objectBounds g (headSpan (← get)) true)
  if Look.sign "?" ts then return .maybe (← traitBound g ⟨false, false⟩)
  let first ← g.type true
  match ← sign? "," with
  | some comma => return .complete (first.phrase ++ comma ++ (← commaSeparated g.typePhrase))
  | none => return .inner first

/-- A type that starts with parentheses. -/
def parenthesizedType (g : Nonterminals) (plus : Bool) : Reader TypePhrase := do
  match ← inGroup .paren (parenthesizedContents g) with
  | .complete inner => return plainType (Phrase.group .paren inner)
  | .maybe inner => return ⟨.bounds false, Phrase.group .paren inner ++ (← moreBounds g)⟩
  | .inner type =>
    let first := Phrase.group .paren type.phrase
    let isBound := match type.shape with
      | .path _ => true
      | .bounds single => single
      | .other => false
    if plus && isBound && (← sees (Look.sign "+")) then
      return ⟨.bounds false, first ++ (← moreBounds g)⟩
    return plainType first

/-- The name of a parameter of a function type, if it is given. -/
def parameterName : Reader Phrase := do
  let ts ← ahead
  let named := Look.ident ts || Look.word "_" ts || Look.word "self" ts
  if named && seesColon (Look.skip ts) then
    return Phrase.ident (← anyIdent) ++ (← sign ":")
  return []

/-- A parameter of a function type. -/
def functionParameter (g : Nonterminals) : Reader Phrase := do
  let before ← attributes g
  let ts ← ahead
  let changing ← if Look.word "mut" ts && Look.word "self" (Look.skip ts) then word "mut"
    else pure []
  let name ← parameterName
  match ← sign? "..." with
  | some dots => return before ++ changing ++ name ++ dots
  | none => return before ++ changing ++ name ++ (← g.typePhrase)

/-- The calling convention of a function, if it is given. -/
def convention : Reader Phrase := do
  match ← word? "extern" with
  | none => return []
  | some start => if ← sees Look.string then return start ++ (← take 1) else return start

/-- A word that may be left out. -/
def optionalWord (name : String) : Reader Phrase := do return (← word? name).getD []

/-- A function type. -/
def functionType (g : Nonterminals) : Reader Phrase := do
  let safety ← optionalWord "unsafe"
  let abi ← convention
  let fn ← word "fn"
  let inputs ← group .paren (commaSeparated (functionParameter g))
  return safety ++ abi ++ fn ++ inputs ++ (← returnType g false)

/-- Whether the keyword of a function type stands here. -/
def startsFunction (ts : List TokenTree) : Bool :=
  Look.word "fn" ts || Look.word "unsafe" ts || Look.word "extern" ts

/-- A type that starts with a path; `names` are lifetimes that were introduced in front of it. -/
def pathType (g : Nonterminals) (plus : Bool) (names : Phrase) : Reader TypePhrase := do
  let (p?, phrase) ← qualifiedPath g false
  let some p := p? | return plainType phrase
  let ts ← ahead
  if p.isPlain && Look.sign "!" ts && !Look.sign "!=" ts then
    return plainType (phrase ++ (← sign "!") ++ (← anyGroup))
  if !names.isEmpty || (plus && Look.sign "+" ts) then
    let more ← if plus then openBounds g else pure []
    return ⟨.bounds more.isEmpty, names ++ phrase ++ more⟩
  return ⟨.path p, phrase⟩

/-- A pointer type after its star. -/
def pointerType (g : Nonterminals) : Reader Phrase := do
  let star ← sign "*"
  let ts ← ahead
  if !(Look.word "const" ts || Look.word "mut" ts) then
    expectedKinds [Look.aWord "const", Look.aWord "mut"]
  return star ++ (← take 1) ++ (← g.type false).phrase

/-- A reference type. -/
def referenceType (g : Nonterminals) : Reader Phrase := do
  let start ← sign "&"
  let name ← lifetime?
  let changing ← optionalWord "mut"
  return start ++ name ++ changing ++ (← g.type false).phrase

/-- An array or slice type. -/
def bracketType (g : Nonterminals) : Reader Phrase :=
  group .bracket do
    let element ← g.typePhrase
    match ← sign? ";" with
    | some semi => return element ++ semi ++ (← g.exprPhrase)
    | none => return element

/-- A trait object after `dyn`. -/
def dynType (g : Nonterminals) (plus : Bool) : Reader Phrase := do
  let (start, span) ← spanned (word "dyn")
  let star := (← sign? "*").getD []
  return start ++ star ++ (← objectBounds g span plus)

/-- A type that is known by its traits only. -/
def implType (g : Nonterminals) (plus : Bool) : Reader Phrase := do
  let (start, span) ← spanned (word "impl")
  return start ++ (← traitBounds g span plus ⟨true, true⟩ "at least one trait must be specified")

/-- The words that may follow lifetimes introduced in front of a type. -/
def afterBinder : List Look.Kind :=
  [Look.anIdent, Look.aWord "fn", Look.aWord "unsafe", Look.aWord "extern", Look.aWord "super",
    Look.aWord "self", Look.aWord "Self", Look.aWord "crate"]

/-- What a type may start with. -/
def startsOfType : List Look.Kind :=
  [Look.aWord "for", Look.aGroup .paren, Look.aWord "fn", Look.aWord "unsafe", Look.aWord "extern",
    Look.anIdent, Look.aSign "::", Look.aSign "<", Look.aWord "dyn", Look.aGroup .bracket,
    Look.aSign "*", Look.aSign "&", Look.aSign "!", Look.aWord "impl", Look.aWord "_",
    Look.aLifetime]

/-- A type. -/
def typeRule (g : Nonterminals) (plus : Bool) : Reader TypePhrase := do
  let names ← binder? g
  let ts ← ahead
  if !names.isEmpty && !afterBinder.any (·.holds ts) then expectedKinds afterBinder
  if Look.group .paren ts then parenthesizedType g plus
  else if startsFunction ts then return plainType (names ++ (← functionType g))
  else if Look.ident ts || seesModuleWord ts || Look.word "Self" ts || Look.sign "::" ts ||
      Look.sign "<" ts then
    pathType g plus names
  else if Look.word "dyn" ts then return plainType (← dynType g plus)
  else if Look.group .bracket ts then return plainType (← bracketType g)
  else if Look.sign "*" ts then return plainType (← pointerType g)
  else if Look.sign "&" ts then return plainType (← referenceType g)
  else if Look.sign "!" ts && !Look.sign "=" ts then return plainType (← sign "!")
  else if Look.word "impl" ts then return plainType (← implType g plus)
  else if Look.word "_" ts then return plainType (← take 1)
  else if Look.lifetime ts then return ⟨.bounds false, ← objectBounds g (headSpan (← get)) true⟩
  else expectedKinds startsOfType

end RequestGroups.Grammar.Rules
