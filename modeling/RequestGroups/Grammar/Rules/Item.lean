import RequestGroups.Grammar.Rules.Member
import RequestGroups.Grammar.Item

/-! # Reading items

* `itemRule`: any item. Items that are accepted but have no regular form, such as a constant without
  value, are kept as they are written;
* `structItem`: a struct with all of its parts;
* `useTreeRule`: a tree of a `use` item. -/

namespace RequestGroups.Grammar.Rules

open RequestGroups.Source Reader

/-! ### Structs, enums and unions -/

/-- Fields with commas between them, up to the end of the input. -/
def fieldList (field : Reader FieldItem) : Reader FieldList :=
  iterate (fun done => do
    if ← atEnd then return none
    let f ← field
    if ← atEnd then return some ⟨done.fields ++ [f], false⟩
    let _ ← sign ","
    return some ⟨done.fields ++ [f], true⟩) ⟨[], false⟩

/-- The type of a field without a name of its own, which may be a struct or union of fields. -/
def namelessType (g : Nonterminals) (named : Reader FieldItem) : Reader Phrase := do
  let inPlace ← sees fun ts =>
    Look.word "struct" ts || (Look.word "union" ts && Look.group .brace (Look.skip ts))
  if inPlace then
    asWritten do
      let _ ← anyIdent
      inGroup .brace (fieldList named)
  else g.typePhrase

/-- A field with a name, which may be `_`; `nested` reads the fields of a type in place. -/
def namedFieldWith (g : Nonterminals) (nested : Reader FieldItem) : Reader FieldItem := do
  let before ← outerAttributes g
  let vis ← visibility
  let nameless ← sees (Look.word "_")
  let name ← if nameless then anyIdent else ident
  let _ ← sign ":"
  return ⟨before, vis, some name, ← if nameless then namelessType g nested else g.typePhrase⟩

/-- A field with a name. -/
def namedField (g : Nonterminals) : Reader FieldItem := fun i =>
  go (TokenTree.countOf i.rest) i
where
  /-- Fields of types in place, nested up to a depth. -/
  go : Nat → Reader FieldItem
    | 0 => expected []
    | n + 1 => namedFieldWith g (go n)

/-- A field without a name. -/
def tupleField (g : Nonterminals) : Reader FieldItem := do
  return ⟨← outerAttributes g, ← visibility, none, ← g.typePhrase⟩

/-- Fields in braces. -/
def namedFields (g : Nonterminals) : Reader FieldList := inGroup .brace (fieldList (namedField g))

/-- Fields in parentheses. -/
def tupleFields (g : Nonterminals) : Reader FieldList := inGroup .paren (fieldList (tupleField g))

/-- The `where` clause of a struct and its fields, in the order in which its form demands them. -/
def structBody (g : Nonterminals) : Reader (Option Phrase × Fields) := do
  let clause ← whereClause? g
  let ts ← ahead
  if clause.isNone && Look.group .paren ts then
    let fields ← tupleFields g
    let clause ← whereClause? g
    if !(← sees (Look.sign ";")) then
      expectedKinds ((if clause.isNone then [Look.aWord "where"] else []) ++ [Look.aSign ";"])
    let _ ← sign ";"
    return (clause, .tuple fields)
  if Look.group .brace ts then return (clause, .named (← namedFields g))
  if Look.sign ";" ts then
    let _ ← sign ";"
    return (clause, .unit)
  expectedKinds ((if clause.isNone then [Look.aWord "where", Look.aGroup .paren] else []) ++
    [Look.aGroup .brace, Look.aSign ";"])

/-- A struct behind its attributes. -/
def structItem (g : Nonterminals) (attributes : List Attribute) : Reader StructItem := do
  let vis ← visibility
  let _ ← word "struct"
  let name ← ident
  let parameters ← genericParameters g
  let (clause, fields) ← structBody g
  return ⟨attributes, vis, name, parameters.phrase, clause, fields⟩

/-- A variant of an enum; its visibility is not kept. -/
def variant (g : Nonterminals) : Reader Phrase := do
  let before ← attributes g
  let _ ← visibility
  let name ← ident
  let ts ← ahead
  let fields ← if Look.group .brace ts then Fields.named <$> namedFields g
    else if Look.group .paren ts then Fields.tuple <$> tupleFields g
    else pure .unit
  let value ← match ← sign? "=" with
    | some equals => pure (equals ++ (← g.exprPhrase))
    | none => pure []
  return before ++ Phrase.ident name ++ fields.phrase ++ value

/-- What an item other than a struct is known by. -/
structure Known where
  kind : ItemKind
  name : Option Ident
  visibility : Phrase
  phrase : Phrase

/-- An enum behind its attributes. -/
def enumItem (g : Nonterminals) : Reader Known := do
  let vis ← visibility
  let start ← word "enum"
  let name ← ident
  let parameters ← genericParameters g
  let clause ← whereClause g
  let variants ← group .brace (commaSeparated (variant g))
  return ⟨.enum, some name, vis,
    vis ++ start ++ Phrase.ident name ++ parameters.phrase ++ clause ++ variants⟩

/-- A union behind its attributes. -/
def unionItem (g : Nonterminals) : Reader Known := do
  let vis ← visibility
  let start ← word "union"
  let name ← ident
  let parameters ← genericParameters g
  let clause ← whereClause g
  let fields ← namedFields g
  return ⟨.union, some name, vis,
    vis ++ start ++ Phrase.ident name ++ parameters.phrase ++ clause ++
      (Fields.named fields).phrase⟩

/-! ### Other items -/

/-- An item of another kind that has a name. -/
def named (name : Ident) (phrase : Phrase) : Known := ⟨.other, some name, [], phrase⟩

/-- An item without a name. -/
def nameless (phrase : Phrase) : Known := ⟨.other, none, [], phrase⟩

/-- A function of a module. -/
def functionItem (g : Nonterminals) : Reader (Option Known) := do
  let vis ← visibility
  return (← function g vis).map fun (name, phrase) => named name phrase

/-- Another library, under its own or another name. -/
def externCrate : Reader Known := do
  let vis ← visibility
  let start ← word "extern"
  let crate ← word "crate"
  let name ← if ← sees (Look.word "self") then anyIdent else ident
  let rename ← match ← word? "as" with
    | some as =>
      let other ← if ← sees (Look.word "_") then anyIdent else ident
      pure (as ++ Phrase.ident other)
    | none => pure []
  return nameless (vis ++ start ++ crate ++ Phrase.ident name ++ rename ++ (← sign ";"))

/-- A block of foreign members. -/
def foreignBlock (g : Nonterminals) : Reader Known := do
  let notSafe ← optionalWord "unsafe"
  if !(← sees (Look.word "extern")) then expected ["`extern`"]
  let abi ← convention
  return nameless (notSafe ++ abi ++ (← members g (foreignMember g)))

/-- An item that starts with `extern` and is no function. -/
def externItem (g : Nonterminals) : Reader Known := do
  let next ← lookAhead do
    let _ ← visibility
    let _ ← word "extern"
    let ts ← ahead
    if Look.word "crate" ts || Look.group .brace ts then return ts
    if !Look.string ts then expectedKinds [Look.aWord "crate", Look.aGroup .brace, Look.aString]
    let _ ← take 1
    if !(← sees (Look.group .brace)) then expectedKinds [Look.aGroup .brace]
    return ts
  if Look.word "crate" next then externCrate else foreignBlock g

/-- The name after `as` in a tree of a `use` item. -/
def useRename : Reader Phrase := do
  let ts ← ahead
  if Look.ident ts || Look.word "_" ts then return Phrase.ident (← anyIdent)
  expected ["identifier or underscore"]

/-- A tree of a `use` item. -/
def useTreeRule (g : Nonterminals) (rooted : Bool) : Reader Phrase := do
  let ts ← ahead
  if Look.ident ts || seesModuleWord ts || Look.word "try" ts then
    let name := Phrase.ident (← anyIdent)
    if let some colons ← sign? "::" then return name ++ colons ++ (← g.useTree false)
    if let some as ← word? "as" then return name ++ as ++ (← useRename)
    return name
  if Look.sign "*" ts then return ← sign "*"
  if Look.group .brace ts then
    return ← group .brace <| commaSeparated do
      let root ← if rooted then sign? "::" else pure none
      return root.getD [] ++ (← g.useTree (rooted && root.isNone))
  expectedKinds [Look.anIdent, Look.aWord "self", Look.aWord "super", Look.aWord "crate",
    Look.aWord "try", Look.aSign "*", Look.aGroup .brace]

/-- A `use` item. -/
def useItem (g : Nonterminals) : Reader Known := do
  let vis ← visibility
  let start ← word "use"
  let root ← sign? "::"
  let tree ← g.useTree root.isNone
  return nameless (vis ++ start ++ root.getD [] ++ tree ++ (← sign ";"))

/-- A variable of a module; it is kept as it is written unless it has a type and a value. -/
def staticItem (g : Nonterminals) : Reader (Option Known) := do
  let vis ← visibility
  let start ← word "static"
  let changing ← optionalWord "mut"
  let name ← ident
  if (← sign? "=").isSome then
    let _ ← g.exprPhrase
    let _ ← sign ";"
    return none
  let colon ← sign ":"
  let type ← g.typePhrase
  if (← sign? ";").isSome then return none
  let equals ← sign "="
  let value ← g.exprPhrase
  let semicolon ← sign ";"
  return some <| named name <| vis ++ start ++ changing ++ Phrase.ident name ++ colon ++ type ++
    equals ++ value ++ semicolon

/-- A constant of a module; it is kept as it is written unless it has a value and no parameters. -/
def constItem (g : Nonterminals) : Reader (Option Known) := do
  let vis ← visibility
  let (start, c) ← constMember g
  return if c.regular && c.hasValue then some (named c.name (vis ++ start ++ c.phrase)) else none

/-- A module. -/
def moduleItem (g : Nonterminals) : Reader Known := do
  let vis ← visibility
  let notSafe ← optionalWord "unsafe"
  let start ← word "mod"
  let name ← if ← sees (Look.word "try") then anyIdent else ident
  let ts ← ahead
  let body ← if Look.sign ";" ts then sign ";"
    else if Look.group .brace ts then members g g.item
    else expectedKinds [Look.aSign ";", Look.aGroup .brace]
  return named name (vis ++ notSafe ++ start ++ Phrase.ident name ++ body)

/-- A type alias; it is kept as it is written unless it has a type and no bounds. -/
def typeItem (g : Nonterminals) : Reader (Option Known) := do
  let t ← namedType g false ⟨true, false⟩
  return if t.colon || t.value.isEmpty then none
    else some (named t.name (t.head ++ t.clause ++ t.value ++ t.semicolon))

/-- A trait behind its name and parameters. -/
def traitRest (g : Nonterminals) : Reader Phrase := do
  let (_, bounds) ← colonBounds g fun ts => Look.word "where" ts || Look.group .brace ts
  let clause ← whereClause g
  return bounds ++ clause ++ (← members g (traitMember g))

/-- The bounds that a trait alias stands for. -/
def traitAliasRest (g : Nonterminals) : Reader Phrase := do
  let equals ← sign "="
  let bounds ← boundsBetween g ⟨false, false⟩ fun ts => Look.word "where" ts || Look.sign ";" ts
  let clause ← whereClause g
  return equals ++ bounds ++ clause ++ (← sign ";")

/-- A trait; `alias?` says whether an alias may stand here. -/
def traitItem (g : Nonterminals) (alias? : Bool) : Reader Known := do
  let vis ← visibility
  let notSafe ← optionalWord "unsafe"
  let auto ← optionalWord "auto"
  let start ← word "trait"
  let name ← ident
  let parameters ← genericParameters g
  let head := vis ++ notSafe ++ auto ++ start ++ Phrase.ident name ++ parameters.phrase
  let ts ← ahead
  if !alias? || Look.group .brace ts || Look.sign ":" ts || Look.word "where" ts then
    return named name (head ++ (← traitRest g))
  if Look.sign "=" ts then return named name (head ++ (← traitAliasRest g))
  expectedKinds [Look.aGroup .brace, Look.aSign ":", Look.aWord "where", Look.aSign "="]

/-- Whether an angle bracket starts parameters rather than a type with a self type. -/
def startsParameters (ts : List TokenTree) : Bool :=
  let next := Look.skip ts
  let after := Look.skip next
  Look.sign "<" ts && (Look.sign ">" next || Look.sign "#" next || Look.word "const" next ||
    ((Look.lifetime next || Look.ident next) &&
      (Look.sign ">" after || Look.sign "," after || seesColon after || Look.sign "=" after)))

/-- The mark of an implementation as constant. -/
def constImplMark : Reader Bool := do
  let ts ← ahead
  if Look.word "const" ts then
    let _ ← take 1
    return true
  if Look.sign "?" ts && Look.word "const" (Look.skip ts) then
    let _ ← take 2
    return true
  return false

/-- The trait of an implementation, with its sign and the word `for`, and the type it is for. The
flag says whether the trait is no path. -/
def implSubject (g : Nonterminals) : Reader (Bool × Phrase) := do
  let negated ← sees fun ts => Look.sign "!" ts && !Look.group .brace (Look.skip ts)
  let (polarity, span) ← spanned (if negated then sign "!" else pure [])
  let first ← g.type true
  match ← word? "for" with
  | some for' =>
    let irregular := match first.shape with
      | .path _ => false
      | _ => true
    return (irregular, polarity ++ first.phrase ++ for' ++ (← g.typePhrase))
  | none =>
    if negated then fun _ => .error ⟨.negatedInherent, span⟩
    return (false, first.phrase)

/-- An implementation; it is kept as it is written if it has a visibility, if it is constant or if
it is for something that is no trait. -/
def implItem (g : Nonterminals) : Reader (Option Known) := do
  let vis ← visibility
  let byDefault ← optionalWord "default"
  let notSafe ← optionalWord "unsafe"
  let start ← word "impl"
  let parameters ← if ← sees startsParameters then genericParameters g
    else pure ⟨false, false, []⟩
  let isConst ← constImplMark
  let (irregular, subject) ← implSubject g
  let clause ← whereClause g
  let body ← members g (implMember g)
  if !vis.isEmpty || isConst || irregular then return none
  return some (nameless (byDefault ++ notSafe ++ start ++ parameters.phrase ++ subject ++ clause ++
    body))

/-- The definition of a macro by the keyword of that name, which is kept as it is written. -/
def macroDefinition : Reader Unit := do
  let _ ← visibility
  let _ ← word "macro"
  let _ ← ident
  let arguments ← sees (Look.group .paren)
  if arguments then let _ ← take 1
  if ← sees (Look.group .brace) then let _ ← take 1
  else expectedKinds ((if arguments then [] else [Look.aGroup .paren]) ++ [Look.aGroup .brace])

/-- A macro call among items, which may define a name. -/
def macroItem : Reader Known := do
  let path ← modPath
  let bang ← sign "!"
  let ts ← ahead
  let name ← if Look.ident ts || Look.word "try" ts then Phrase.ident <$> anyIdent else pure []
  let body ← anyGroup
  let semicolon ← if Phrase.endsInBrace body then pure [] else sign ";"
  return nameless (path.phrase ++ bang ++ name ++ body ++ semicolon)

/-- An item that starts with `unsafe` and is no function. -/
def unsafeItem (g : Nonterminals) (next : List TokenTree) : Reader (Option Known) := do
  if Look.word "trait" next || (Look.word "auto" next && Look.word "trait" (Look.skip next)) then
    return some (← traitItem g false)
  if Look.word "impl" next then return ← implItem g
  if Look.word "extern" next then return some (← foreignBlock g)
  if Look.word "mod" next then return some (← moduleItem g)
  let _ ← visibility
  let _ ← word "unsafe"
  expectedKinds [Look.aWord "trait", Look.aWord "auto", Look.aWord "impl", Look.aWord "extern",
    Look.aWord "mod"]

/-- The words that an item may start with behind its visibility. -/
def startsOfItem : List Look.Kind :=
  ["fn", "extern", "use", "static", "const", "unsafe", "mod", "type", "struct", "enum", "union",
    "trait", "auto", "impl", "default", "macro"].map Look.aWord

/-- An item that is no struct, behind its attributes; `ts` are the trees behind its visibility. -/
def otherItem (g : Nonterminals) (isPrivate : Bool) (ts : List TokenTree) :
    Reader (Option Known) := do
  let next := Look.skip ts
  let starts := fun name => Look.word name ts
  if startsSignature false ts then functionItem g
  else if starts "extern" then return some (← externItem g)
  else if starts "use" then return some (← useItem g)
  else if starts "static" then staticItem g
  else if starts "const" then constItem g
  else if starts "unsafe" then unsafeItem g next
  else if starts "mod" then return some (← moduleItem g)
  else if starts "type" then typeItem g
  else if starts "enum" then return some (← enumItem g)
  else if starts "union" && Look.ident next then return some (← unionItem g)
  else if starts "trait" then return some (← traitItem g true)
  else if starts "auto" && Look.word "trait" next then return some (← traitItem g false)
  else if starts "impl" || seesDefault ts then implItem g
  else if starts "macro" then
    macroDefinition
    return none
  else if isPrivate && startsOfCall.any (·.holds ts) then return some (← macroItem)
  else
    let _ ← visibility
    expectedKinds (startsOfItem ++ if isPrivate then startsOfCall else [])

/-- An item. -/
def itemRule (g : Nonterminals) : Reader Item :=
  orAsWritten (Item.other .other none []) do
    let before ← outerAttributes g
    let (vis, ts) ← lookAhead do return (← visibility, ← ahead)
    if Look.word "struct" ts then return some (.struct (← structItem g before))
    let item ← otherItem g vis.isEmpty ts
    return item.map fun k =>
      .other k.kind k.name k.visibility (Attribute.phraseOf before ++ k.phrase)

end RequestGroups.Grammar.Rules
