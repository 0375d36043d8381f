import RequestGroups.Grammar.Rules.Attribute

/-! # Reading bounds

* `binder`: `for<'a>`;
* `bound`: a trait, a lifetime or a list of captured parameters;
* `bounds`: several of them joined by `+`. -/

namespace RequestGroups.Grammar.Rules

open RequestGroups.Source Reader

/-- Lifetimes that are introduced after `for`. -/
def binder (g : Nonterminals) : Reader Phrase := do
  let start ← word "for"
  let less ← sign "<"
  let names ← separated (sign ",") (sees (Look.sign ">")) do
    return (← attributes g) ++ (← lifetime)
  return start ++ less ++ names ++ (← sign ">")

/-- Lifetimes that are introduced after `for`, if there are any. -/
def binder? (g : Nonterminals) : Reader Phrase := do
  if ← sees (Look.word "for") then binder g else return []

/-- The type after an arrow, if there is one. -/
def returnType (g : Nonterminals) (plus : Bool) : Reader Phrase := do
  match ← sign? "->" with
  | some arrow => return arrow ++ (← g.type plus).phrase
  | none => return []

/-- Argument types in parentheses, as after `Fn`. -/
def parenthesizedArguments (g : Nonterminals) : Reader Phrase := do
  return (← group .paren (commaSeparated g.typePhrase)) ++ (← returnType g false)

/-- What bounds may stand in a place. -/
structure BoundPlace where
  /-- Whether captured parameters may be listed. -/
  captures : Bool
  /-- Whether traits may be marked as constant. -/
  const : Bool

/-- The parameters that a type captures. -/
def captures : Reader Phrase := do
  let start ← word "use"
  let less ← sign "<"
  let names ← iterate (fun done => do
    let ts ← ahead
    if Look.sign ">" ts then return none
    let name ← if Look.lifetime ts then lifetime
      else if Look.ident ts || Look.word "Self" ts then Phrase.ident <$> anyIdent
      else expectedKinds [Look.aLifetime, Look.anIdent, Look.aSign ">"]
    if ← sees (Look.sign ">") then return some (done ++ name)
    match ← sign? "," with
    | some comma => return some (done ++ name ++ comma)
    | none => expectedKinds [Look.aSign ",", Look.aSign ">"]) []
  return start ++ less ++ names ++ (← sign ">")

/-- The mark of a trait as constant, with or without brackets. -/
def constMark (place : BoundPlace) : Reader Phrase := do
  let refuse := fun (what : String) =>
    faultHere (.boundNotAllowed s!"`{what}` is not allowed here")
  if ← sees (Look.group .bracket) then
    if !place.const then refuse "[const]"
    group .bracket (word "const")
  else if ← sees (Look.word "const") then
    if !place.const then refuse "const"
    word "const"
  else return []

/-- A trait with its modifiers. -/
def traitBound (g : Nonterminals) (place : BoundPlace) : Reader Phrase := do
  let before ← binder? g
  let mark ← constMark place
  let maybe := (← sign? "?").getD []
  let after ← if before.isEmpty && !maybe.isEmpty then binder? g else pure []
  let p ← path g false
  let ts ← ahead
  let bare := p.segments.getLast?.any (·.arguments.isEmpty)
  let colons := Look.sign "::" ts && Look.group .paren (Look.skip (Look.skip ts))
  let arguments ← if bare && (Look.group .paren ts || colons) then
      let _ ← sign? "::"
      parenthesizedArguments g
    else pure []
  return before ++ mark ++ maybe ++ after ++ p.phrase ++ arguments

/-- A bound, and whether it is a trait. -/
def bound (g : Nonterminals) (place : BoundPlace) : Reader (Bool × Phrase) := do
  if ← sees Look.lifetime then return (false, ← lifetime)
  if ← sees (Look.word "use") then
    if !place.captures then
      faultHere (.boundNotAllowed "`use<...>` precise capturing syntax is not allowed here")
    return (false, ← captures)
  if ← sees (Look.group .paren) then return (true, ← group .paren (traitBound g place))
  return (true, ← traitBound g place)

/-- A bound as a phrase. -/
def boundPhrase (g : Nonterminals) (place : BoundPlace) : Reader Phrase := do
  return (← bound g place).2

/-- Whether another bound may follow a plus. -/
def startsBound (place : BoundPlace) (ts : List TokenTree) : Bool :=
  Look.anyWord ts || Look.sign "::" ts || Look.sign "?" ts || Look.lifetime ts ||
    Look.group .paren ts || (place.const && Look.group .bracket ts)

/-- Bounds joined by plus signs, and whether one of them is a trait. -/
def bounds (g : Nonterminals) (plus : Bool) (place : BoundPlace) : Reader (Bool × Phrase) := do
  let (trait?, done, _) ← iterate (fun (trait?, done, more) => do
    if !more then return none
    let (isTrait, b) ← bound g place
    let joined ← if plus then sign? "+" else pure none
    let more := joined.isSome && (← sees (startsBound place))
    return some (trait? || isTrait, done ++ b ++ joined.getD [], more)) (false, [], true)
  return (trait?, done)

/-- Bounds after a colon: each but the last is followed by a plus, up to a stop. -/
def boundsUpTo (g : Nonterminals) (stop : List TokenTree → Bool) : Reader Phrase := do
  let (done, _) ← iterate (fun (done, more) => do
    if !more || (← sees stop) then return none
    let b ← boundPhrase g ⟨false, true⟩
    let joined ← sign? "+"
    return some (done ++ b ++ joined.getD [], joined.isSome)) ([], true)
  return done

/-- Lifetimes after a colon: each but the last is followed by a plus, up to a stop. -/
def lifetimesUpTo (stop : List TokenTree → Bool) : Reader Phrase := do
  let (done, _) ← iterate (fun (done, more) => do
    if !more || (← sees stop) then return none
    let b ← lifetime
    let joined ← sign? "+"
    return some (done ++ b ++ joined.getD [], joined.isSome)) ([], true)
  return done

end RequestGroups.Grammar.Rules
