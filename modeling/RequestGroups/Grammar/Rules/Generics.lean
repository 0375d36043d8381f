import RequestGroups.Grammar.Rules.Bounds

/-! # Reading generic parameters and arguments

* `genericParameters`: the parameters of an item;
* `whereClause?`: the predicates after `where`;
* `genericArguments`: the arguments of a name in a path.

Lifetimes come first when parameters or arguments are written. A colon without bounds is left out
of a parameter, and a list without parameters or predicates is left out altogether. -/

namespace RequestGroups.Grammar.Rules

open RequestGroups.Source Reader

/-! ### Lists with lifetimes first -/

/-- An element of a list in angle brackets, and the comma after it. -/
structure ListElement where
  isLifetime : Bool
  phrase : Phrase
  comma : Phrase

/-- The elements of a list, lifetimes first. -/
def lifetimesFirst (elements : List ListElement) : Phrase :=
  let lifetimes := elements.filter (·.isLifetime)
  let others := elements.filter (!·.isLifetime)
  let written := fun (es : List ListElement) => es.flatMap fun e => e.phrase ++ e.comma
  let unseparated := !others.isEmpty && lifetimes.getLast?.any (·.comma.isEmpty)
  written lifetimes ++ (if unseparated then Phrase.sign "," else []) ++ written others

/-- Reads elements with commas between them up to a closing angle bracket. -/
def angleList (element : Reader (Bool × Phrase)) : Reader (List ListElement) :=
  iterate (fun done => do
    if ← sees (Look.sign ">") then return none
    let (isLifetime, phrase) ← element
    if ← sees (Look.sign ">") then return some (done ++ [⟨isLifetime, phrase, []⟩])
    return some (done ++ [⟨isLifetime, phrase, ← sign ","⟩])) []

/-! ### Parameters -/

/-- A lifetime parameter with its bounds. -/
def lifetimeParameter : Reader Phrase := do
  let name ← lifetime
  match ← sign? ":" with
  | some colon =>
    let bounds ← lifetimesUpTo fun ts => ts.isEmpty || Look.sign "," ts || Look.sign ">" ts
    return if bounds.isEmpty then name else name ++ colon ++ bounds
  | none => return name

/-- A type parameter with its bounds and its default. -/
def typeParameter (g : Nonterminals) : Reader Phrase := do
  let name ← ident
  let bounded ← match ← sign? ":" with
    | some colon =>
      let bounds ← boundsUpTo g fun ts =>
        ts.isEmpty || Look.sign "," ts || Look.sign ">" ts || Look.sign "=" ts
      pure (if bounds.isEmpty then [] else colon ++ bounds)
    | none => pure []
  let default ← match ← sign? "=" with
    | some equals => pure (equals ++ (← g.typePhrase))
    | none => pure []
  return Phrase.ident name ++ bounded ++ default

/-- A value for a constant parameter: a literal, a name or a block. -/
def constArgument (g : Nonterminals) : Reader Phrase := do
  let ts ← ahead
  if Look.literal ts then literal
  else if Look.ident ts then Phrase.ident <$> ident
  else if Look.group .brace ts then blockWithAttributes g
  else expected []

/-- A constant parameter with its type and its default. -/
def constParameter (g : Nonterminals) : Reader Phrase := do
  let start ← word "const"
  let name ← ident
  let colon ← sign ":"
  let type ← g.typePhrase
  let default ← match ← sign? "=" with
    | some equals => pure (equals ++ (← constArgument g))
    | none => pure []
  return start ++ Phrase.ident name ++ colon ++ type ++ default

/-- A generic parameter, and whether it is a lifetime. -/
def parameter (g : Nonterminals) : Reader (Bool × Phrase) := do
  let before ← attributes g
  let ts ← ahead
  if Look.lifetime ts then return (true, before ++ (← lifetimeParameter))
  if Look.ident ts then return (false, before ++ (← typeParameter g))
  if Look.word "const" ts then return (false, before ++ (← constParameter g))
  if Look.word "_" ts then return (false, before ++ Phrase.ident (← anyIdent))
  expectedKinds [Look.aLifetime, Look.anIdent, Look.aWord "const"]

/-- The generic parameters of an item. -/
structure Parameters where
  /-- Whether there are angle brackets. -/
  brackets : Bool
  /-- Whether there is a parameter. -/
  any : Bool
  phrase : Phrase

/-- The generic parameters of an item, if there are any. -/
def genericParameters (g : Nonterminals) : Reader Parameters := do
  match ← sign? "<" with
  | none => return ⟨false, false, []⟩
  | some start =>
    let elements ← angleList (parameter g)
    let stop ← sign ">"
    if elements.isEmpty then return ⟨true, false, []⟩
    return ⟨true, true, start ++ lifetimesFirst elements ++ stop⟩

/-! ### Predicates -/

/-- Whether a colon stands here that is not the start of `::`. -/
def seesColon (ts : List TokenTree) : Bool := Look.sign ":" ts && !Look.sign "::" ts

/-- Whether a list of predicates ends here. -/
def endsPredicates (ts : List TokenTree) : Bool :=
  ts.isEmpty || Look.group .brace ts || Look.sign "," ts || Look.sign ";" ts || seesColon ts ||
    Look.sign "=" ts

/-- A predicate of a `where` clause. -/
def predicate (g : Nonterminals) : Reader Phrase := do
  let ts ← ahead
  if Look.lifetime ts && Look.sign ":" (Look.skip ts) then
    return (← lifetime) ++ (← sign ":") ++ (← lifetimesUpTo fun ts =>
      endsPredicates ts || Look.sign ":" ts)
  let names ← binder? g
  let type ← g.typePhrase
  let colon ← sign ":"
  return names ++ type ++ colon ++ (← boundsUpTo g endsPredicates)

/-- A `where` clause, if there is one; without predicates it is the empty phrase. -/
def whereClause? (g : Nonterminals) : Reader (Option Phrase) := do
  match ← word? "where" with
  | none => return none
  | some start =>
    let (done, _) ← iterate (fun (done, more) => do
      if !more || (← sees endsPredicates) then return none
      let p ← predicate g
      let comma ← sign? ","
      return some (done ++ p ++ comma.getD [], comma.isSome)) ([], true)
    return some (if done.isEmpty then [] else start ++ done)

/-- A `where` clause as a phrase. -/
def whereClause (g : Nonterminals) : Reader Phrase := do return (← whereClause? g).getD []

/-! ### Arguments -/

/-- Whether a type may be the name of an associated type that is bound or constrained. -/
def namesAssociated (t : TypePhrase) : Bool :=
  match t.shape with
  | .path ⟨false, [_]⟩ => true
  | _ => false

/-- A generic argument, and whether it is a lifetime. -/
def argument (g : Nonterminals) : Reader (Bool × Phrase) := do
  let ts ← ahead
  if Look.lifetime ts && !Look.sign "+" (Look.skip ts) then return (true, ← lifetime)
  if Look.literal ts || Look.group .brace ts then return (false, ← constArgument g)
  let type ← g.type true
  if namesAssociated type then
    if let some equals ← sign? "=" then
      let isConst ← sees fun ts => Look.literal ts || Look.group .brace ts
      let value ← if isConst then constArgument g else g.typePhrase
      return (false, type.phrase ++ equals ++ value)
    if let some colon ← sign? ":" then
      let bounds ← boundsUpTo g fun ts => Look.sign "," ts || Look.sign ">" ts
      return (false, type.phrase ++ colon ++ bounds)
  return (false, type.phrase)

/-- Generic arguments in angle brackets. -/
def genericArguments (g : Nonterminals) : Reader Phrase := do
  let start ← sign "<"
  let elements ← angleList (argument g)
  return start ++ lifetimesFirst elements ++ (← sign ">")

end RequestGroups.Grammar.Rules
