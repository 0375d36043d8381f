import RequestGroups.Grammar.Rules.Path
import RequestGroups.Text.Quoted

/-! # Reading attributes and visibilities

* `entry`: a path with its argument, the contents of an attribute;
* `outerAttributes` and `innerAttributes`: the attributes in front of something and at the start of
  its contents;
* `visibility`: `pub` with an optional restriction. -/

namespace RequestGroups.Grammar.Rules

open RequestGroups.Source Reader

/-! ### Entries -/

/-- The value of a literal string that stands alone at the front of trees. -/
def stringValue? : List TokenTree → Option String
  | .literal text _ :: _ => if Look.isString text then (Text.Quoted.read? text).map (·.1) else none
  | _ => none

/-- The path of an entry; the keyword `unsafe` may stand for one. -/
def entryPath : Reader Path := do
  if ← sees (Look.word "unsafe") then return .ofIdent (← anyIdent)
  modPath

/-- The value of an entry: a literal that nothing follows, or an expression. -/
def entryValue (g : Nonterminals) : Reader (Phrase × Option String) := do
  let ts ← ahead
  let alone := (← lookAhead (attempt do let _ ← literal; atEnd)).getD false
  if alone then return (← literal, stringValue? ts)
  if Look.sign "#" ts && Look.group .bracket (Look.skip ts) then faultHere .attributeInAttribute
  let e ← g.expr true
  match e.shape with
  | .string s => return (e.phrase, some s)
  | _ => return (e.phrase, none)

/-- The argument of an entry. -/
def entryArgument (g : Nonterminals) : Reader Argument := do
  match ← ahead with
  | .group d opens closes tokens :: _ =>
    let _ ← anyGroup
    return .list d opens closes tokens
  | ts =>
    if !Look.sign "=" ts then return .none
    let (_, equals) ← spanned (sign "=")
    let (phrase, string?) ← entryValue g
    return .value equals phrase string?

/-- A path with its argument. -/
def entry (g : Nonterminals) : Reader Entry := do
  let ((path, argument), span) ← spanned do
    let path ← entryPath
    return (path, ← entryArgument g)
  return ⟨path, argument, span⟩

/-! ### Attributes -/

/-- An attribute in front of something. -/
def outerAttribute (g : Nonterminals) : Reader Attribute := do
  let _ ← sign "#"
  return ⟨false, ← inGroup .bracket (entry g)⟩

/-- An attribute at the start of the contents of something. -/
def innerAttribute (g : Nonterminals) : Reader Attribute := do
  let _ ← sign "#"
  let _ ← sign "!"
  return ⟨true, ← inGroup .bracket (entry g)⟩

/-- The attributes in front of something. -/
def outerAttributes (g : Nonterminals) : Reader (List Attribute) :=
  iterate (fun done => do
    if !(← sees (Look.sign "#")) then return none
    return some (done ++ [← outerAttribute g])) []

/-- The attributes at the start of the contents of something. -/
def innerAttributes (g : Nonterminals) : Reader (List Attribute) :=
  iterate (fun done => do
    if !(← sees fun ts => Look.sign "#" ts && Look.sign "!" (Look.skip ts)) then return none
    return some (done ++ [← innerAttribute g])) []

/-- The attributes in front of something, as a phrase. -/
def attributes (g : Nonterminals) : Reader Phrase := do
  return Attribute.phraseOf (← outerAttributes g)

/-- A block in braces, with attributes at its start. -/
def blockWithAttributes (g : Nonterminals) : Reader Phrase :=
  group .brace do return Attribute.phraseOf (← innerAttributes g) ++ (← g.statements)

/-- A block in braces. -/
def block (g : Nonterminals) : Reader Phrase := group .brace g.statements

/-! ### Visibilities -/

/-- A restriction in parentheses after `pub`: one word that names a module, or `in` with a path. A
word with more behind it is no restriction. -/
def restriction : Reader Phrase := do
  let content ← lookAhead (attempt (inGroup .paren ahead))
  match content with
  | some ts =>
    if seesModuleWord ts then
      if ts.length = 1 then group .paren (Phrase.ident <$> anyIdent) else return []
    else if Look.word "in" ts then
      group .paren do return (← word "in") ++ (← modPath).phrase
    else return []
  | none => return []

/-- A visibility; private is the empty phrase. -/
def visibility : Reader Phrase := do
  match ← word? "pub" with
  | some pub => return pub ++ (← restriction)
  | none => return []

end RequestGroups.Grammar.Rules
