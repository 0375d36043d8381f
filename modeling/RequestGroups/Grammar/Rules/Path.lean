import RequestGroups.Grammar.Nonterminals

/-! # Reading paths

* `modPath`: names alone, as in attributes and visibilities;
* `path`: names with generic arguments, which expressions write behind `::`;
* `qualifiedPath`: a path that may start with a self type, as in `<T as Trait>::Item`. -/

namespace RequestGroups.Grammar.Rules

open RequestGroups.Source Reader

/-- Whether one of the words stands here that name a place of the module tree. -/
def seesModuleWord (ts : List TokenTree) : Bool :=
  Look.word "super" ts || Look.word "self" ts || Look.word "crate" ts

/-- A path of names alone. -/
def modPath : Reader Path := do
  let rooted := (← sign? "::").isSome
  let startsName := fun ts => Look.ident ts || Look.word "Self" ts || seesModuleWord ts
  let (names, more) ← iterate (fun (names, more) => do
    if !more || !(← sees startsName) then return none
    let name ← anyIdent
    return some (names ++ [name], (← sign? "::").isSome)) (([] : List Ident), true)
  if names.isEmpty then return { Path.ofIdent (← ident) with rooted }
  if more then expected ["path segment after `::`"]
  return ⟨rooted, names.map fun i => ⟨i, []⟩⟩

/-- A name of a path with its generic arguments. -/
def segment (g : Nonterminals) (inExpr : Bool) : Reader PathSegment := do
  if ← sees fun ts => seesModuleWord ts || Look.word "try" ts then return ⟨← anyIdent, []⟩
  let name ← if ← sees (Look.word "Self") then anyIdent else ident
  let ts ← ahead
  let direct := !inExpr && Look.sign "<" ts && !Look.sign "<=" ts
  if direct || (Look.sign "::" ts && Look.sign "<" (Look.skip (Look.skip ts))) then
    let colons := (← sign? "::").getD []
    return ⟨name, colons ++ (← g.arguments)⟩
  return ⟨name, []⟩

/-- More names of a path, each after `::`. -/
def moreSegments (g : Nonterminals) (inExpr : Bool) (names : List PathSegment) :
    Reader (List PathSegment) :=
  iterate (fun names => do
    let ts ← ahead
    if !Look.sign "::" ts || Look.group .paren (Look.skip (Look.skip ts)) then return none
    let _ ← sign "::"
    return some (names ++ [← segment g inExpr])) names

/-- A path with generic arguments. -/
def path (g : Nonterminals) (inExpr : Bool) : Reader Path := do
  let rooted := (← sign? "::").isSome
  return ⟨rooted, ← moreSegments g inExpr [← segment g inExpr]⟩

/-- A path that may start with a self type: the whole as a phrase, and the path if there is no
self type. -/
def qualifiedPath (g : Nonterminals) (inExpr : Bool) : Reader (Option Path × Phrase) := do
  if !(← sees (Look.sign "<")) then
    let p ← path g inExpr
    return (some p, p.phrase)
  let start ← sign "<"
  let self ← g.typePhrase
  let ofTrait ← match ← word? "as" with
    | some as => pure (as ++ (← path g false).phrase)
    | none => pure []
  let stop ← sign ">"
  let colons ← sign "::"
  let first ← segment g inExpr
  let names ← iterate (fun names => do
    if (← sign? "::").isNone then return none
    return some (names ++ [← segment g inExpr])) [first]
  return (none, start ++ self ++ ofTrait ++ stop ++ colons ++ Path.segmentsPhrase names)

end RequestGroups.Grammar.Rules
