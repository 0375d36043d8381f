import RequestGroups.Expansion.Basic
import RequestGroups.Grammar.Item

/-! # Generated code

What an expansion generates, as data: the structs, the expressions in the bodies of the methods, and
the methods themselves. Each piece has its tokens as a phrase.

* `GroupRecord.code` and `Expansion.structCode` are the structs;
* `Projection` is what an accessor gives, `ConstructorCode` what the constructor builds, and
  `ConversionCall` what a conversion calls;
* `Method.phrase` is a method with its body. -/

namespace RequestGroups

open Source Grammar

/-! ### Literals, paths and attributes -/

/-- A string literal with the given value. -/
def quoted (value : String) : TokenTree := .literal (Text.Quoted.write value) .callSite

/-- An attribute with tokens in parentheses. -/
def attributeOf (name : String) (tokens : List TokenTree) : Attribute :=
  ⟨false, ⟨.ofNames false [name], .list .paren .callSite .callSite tokens, .callSite⟩⟩

/-- An assignment of a string in an attribute. -/
def assignment (name value : String) : List TokenTree :=
  (Phrase.word name ++ Phrase.sign "=").trees ++ [quoted value]

/-- Phrases with commas between them. -/
def commas (ps : List Phrase) : Phrase := List.intercalate (Phrase.sign ",") ps

namespace Config

/-- A name of the library that generated code refers to. -/
def runtimePath (c : Config) (names : List String) : Path := c.runtime.append names

/-- A name of that library as a phrase. -/
def runtimeName (c : Config) (names : List String) : Phrase := (c.runtimePath names).phrase

end Config

/-! ### Structs -/

namespace GroupRecord

/-- The derives of the record of a group: serialization, and the ones of the declaration that are
repeated. -/
def derives (c : Config) (d : Declaration) : List Path :=
  c.runtimePath ["__private", "serde", "Serialize"] :: Derives.forwarded d.derives

/-- The attribute that lists derives. -/
def deriveAttribute (paths : List Path) : Attribute :=
  attributeOf "derive" (commas (paths.map Path.phrase)).trees

/-- The attribute that says where the serialization library is. -/
def crateAttribute (c : Config) : Attribute :=
  attributeOf "serde" (assignment "crate" (c.runtime.text ++ "::__private::serde"))

/-- The attribute that gives the key of a field. -/
def keyAttribute (key : String) : Attribute := attributeOf "serde" (assignment "rename" key)

/-- A field of the record of a group. -/
def fieldCode (f : GroupField) : FieldItem :=
  ⟨f.attributes ++ [keyAttribute f.key], [], some f.name, f.type⟩

/-- The record of a group as a struct. It has braces even without fields, so that it is encoded as
an object. -/
def code (g : GroupRecord) (c : Config) (d : Declaration) : StructItem where
  attributes := [deriveAttribute (derives c d), crateAttribute c]
  visibility := []
  name := g.name
  parameters := []
  clause := none
  fields := .named ⟨g.fields.map fieldCode, !g.fields.isEmpty⟩

end GroupRecord

namespace Expansion

/-- The field that holds a group. -/
def storageField (e : Expansion) (r : Role) : FieldItem :=
  ⟨[], [], some (e.storage.fieldOf r), Phrase.ident (e.record r).name⟩

/-- The declared struct, in which each group stands for its members. Plain fields stay as they are,
behind the groups. -/
def structCode (e : Expansion) : StructItem where
  attributes := e.declaration.attributes
  visibility := e.declaration.visibility
  name := e.declaration.name
  parameters := []
  clause := none
  fields := .named ⟨Role.all.map e.storageField ++ e.plainFields.map Field.item, true⟩

end Expansion

/-! ### Expressions -/

/-- A member of a group, seen from the struct that holds the group. -/
structure Projection where
  storage : Ident
  name : Ident

/-- The group of a struct that is read or borrowed. -/
def groupPhrase (storage : Ident) : Phrase :=
  Phrase.sign "&" ++ Phrase.word "self" ++ Phrase.sign "." ++ Phrase.ident storage

/-- A reference to a member of a group. -/
def Projection.phrase (p : Projection) : Phrase :=
  groupPhrase p.storage ++ Phrase.sign "." ++ Phrase.ident p.name

/-- A literal of the record of a group, each field of which is the parameter of its name. -/
structure GroupLiteral where
  record : Ident
  names : List Ident

/-- The literal as a phrase. -/
def GroupLiteral.phrase (l : GroupLiteral) : Phrase :=
  Phrase.ident l.record ++ Phrase.group .brace (commas (l.names.map Phrase.ident))

/-- What a field of the struct is set to. -/
inductive Initializer where
  | group (literal : GroupLiteral)
  /-- The default value of the type of the field. -/
  | default

/-- The value as a phrase. -/
def Initializer.phrase : Initializer → Phrase
  | group literal => literal.phrase
  | default =>
    (Path.ofNames true ["core", "default", "Default", "default"]).phrase ++ Phrase.group .paren []

/-- The struct that the constructor builds, field by field. -/
structure ConstructorCode where
  fields : List (Ident × Initializer)

namespace ConstructorCode

/-- A field of the literal. -/
def fieldPhrase (name : Ident) (value : Initializer) : Phrase :=
  Phrase.ident name ++ Phrase.sign ":" ++ value.phrase ++ Phrase.sign ","

/-- The literal as a phrase. -/
def phrase (c : ConstructorCode) : Phrase :=
  Phrase.word "Self" ++
    Phrase.group .brace (c.fields.flatMap fun (name, value) => fieldPhrase name value)

end ConstructorCode

namespace Expansion

/-- What the accessor of a member gives. -/
def projection (e : Expansion) (a : Accessor) : Projection := ⟨e.storage.fieldOf a.owner, a.name⟩

/-- The literal of the record of a group. -/
def groupLiteral (e : Expansion) (r : Role) : GroupLiteral where
  record := (e.record r).name
  names := match r with
    | .header => e.constructor.headerParameters.map (·.name)
    | .body => e.constructor.bodyParameters.map (·.name)

/-- What the constructor builds. -/
def constructorCode (e : Expansion) : ConstructorCode where
  fields := Role.all.map (fun r => (e.storage.fieldOf r, .group (e.groupLiteral r))) ++
    e.constructor.defaulted.map (·, .default)

end Expansion

/-! ### Calls of conversions -/

/-- A call of the function that makes the dictionary of a group or fails: it takes a reference to
the group, and a policy where the values have to be strings. -/
structure ConversionCall where
  role : Role
  storage : Ident
  policy : Option HeaderPolicy

/-- The call of the conversion of a group. -/
def Expansion.conversionCall (e : Expansion) (c : Config) (r : Role) : ConversionCall where
  role := r
  storage := e.storage.fieldOf r
  policy := match r with
    | .header => some c.headerValues
    | .body => none

/-! ### Methods -/

/-- A method. -/
structure Method where
  attributes : List Attribute
  visibility : Phrase
  name : Ident
  inputs : Phrase
  output : Phrase
  body : Phrase

/-- The method as a phrase. -/
def Method.phrase (m : Method) : Phrase :=
  Attribute.phraseOf m.attributes ++ m.visibility ++ Phrase.word "fn" ++ Phrase.ident m.name ++
    Phrase.group .paren m.inputs ++ Phrase.sign "->" ++ m.output ++ Phrase.group .brace m.body

/-- The receiver of a method that only reads. -/
def receiverPhrase : Phrase := Phrase.sign "&" ++ Phrase.word "self"

/-- A function of the implemented trait or of a library, applied to arguments. -/
def callPhrase (function arguments : Phrase) : Phrase := function ++ Phrase.group .paren arguments

end RequestGroups
