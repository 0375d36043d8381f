import RequestGroups.Config.Basic
import RequestGroups.Grammar.Recursion
import RequestGroups.Source.Lexer

/-! # Configurations from arguments

The arguments of an expansion are assignments with commas between them, such as
`headers = "AuthHeaders", header_values = "stringify"`.

* `Setting` is one assignment, and `Config.assign` makes it;
* `Config.ofArguments` makes all assignments one after the other, starting from the defaults. -/

namespace RequestGroups

open Source Grammar Reader

/-- An assignment. -/
inductive Setting where
  | headersType (name : Ident)
  | bodyType (name : Ident)
  | constructor (name : Ident)
  | headerValues (policy : HeaderPolicy)
  | runtime (path : Path)

/-- Makes an assignment. -/
def Config.assign (c : Config) : Setting → Config
  | .headersType name => { c with headersType := some name }
  | .bodyType name => { c with bodyType := some name }
  | .constructor name => { c with constructor := name }
  | .headerValues policy => { c with headerValues := policy }
  | .runtime path => { c with runtime := path }

/-! ### String literals -/

/-- A string literal. -/
structure Quotation where
  value : String
  suffix : String
  span : Span

/-- Reads a string literal. -/
def quotation : Reader Quotation := fun i =>
  let quoted? := match i.rest with
    | .literal text span :: rest =>
      if Look.isString text then
        (Text.Quoted.read? text).map fun (value, suffix) => (⟨value, suffix, span⟩, rest)
      else none
    | _ => none
  match quoted? with
  | some (q, rest) => .ok (q, { i with rest })
  | none => expected ["string literal"] i

namespace Quotation

/-- The contents of the literal, read as source text all of which stands where the literal
stands. -/
def contents (q : Quotation) (r : Nonterminals → Reader α) : Except Fault α := do
  match tokenize q.value with
  | .error p => throw ⟨.notTokens, ⟨p, p⟩⟩
  | .ok ts =>
    let a ← readAll q.span r (TokenTree.respanAll q.span ts)
    if q.suffix.isEmpty then return a else throw ⟨.suffix q.suffix, q.span⟩

/-- The identifier that the literal contains. -/
def ident (q : Quotation) : Except Fault Ident := q.contents fun _ => Reader.ident

/-- The path that the literal contains. -/
def path (q : Quotation) : Except Fault Path := q.contents fun g => Rules.path g false

/-- The policy that the literal names. -/
def policy (q : Quotation) : Except Fault HeaderPolicy :=
  match HeaderPolicy.ofName? q.value with
  | some p => return p
  | none => throw ⟨.unknownPolicy q.value, q.span⟩

end Quotation

/-! ### Assignments -/

/-- The name on the left of an assignment, in which keywords are allowed. -/
def argumentPath : Reader Path := do
  let rooted := (← sign? "::").isSome
  let ts ← ahead
  if ts.isEmpty then expected ["nested attribute"]
  if !Look.anyWord ts then
    faultHere (if Look.literal ts then .literalArgument else .tokenArgument)
  let first ← anyIdent
  let names ← iterate (fun names => do
    if (← sign? "::").isNone then return none
    return some (names ++ [← anyIdent])) [first]
  return ⟨rooted, names.map fun n => ⟨n, []⟩⟩

/-- The value on the right of an assignment. -/
def argumentValue (value : Quotation → Except Fault α) : Reader α := do
  let _ ← sign "="
  value (← quotation)

/-- Reads an assignment. -/
def setting : Reader Setting := do
  let p ← argumentPath
  if p.isName "headers" then return .headersType (← argumentValue Quotation.ident)
  else if p.isName "body" then return .bodyType (← argumentValue Quotation.ident)
  else if p.isName "constructor" then return .constructor (← argumentValue Quotation.ident)
  else if p.isName "header_values" then return .headerValues (← argumentValue Quotation.policy)
  else if p.isName "crate" then return .runtime (← argumentValue Quotation.path)
  else fun _ => .error ⟨.unknownArgument, p.span⟩

/-- The settings that arguments assign. -/
def Setting.read (ts : List TokenTree) : Except Fault (List Setting) :=
  run .callSite (listOf setting) ts

/-- The configuration that arguments describe. -/
def Config.ofArguments (ts : List TokenTree) : Except Fault Config := do
  return (← Setting.read ts).foldl assign {}

end RequestGroups
