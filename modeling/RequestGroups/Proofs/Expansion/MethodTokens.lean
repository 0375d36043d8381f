import RequestGroups.Expansion.Emission
import RequestGroups.Proofs.Grammar.AttributeReading
import RequestGroups.Proofs.Grammar.Stripping

/-! # Methods as tokens

A method is written with its attributes, its visibility, `fn`, its name, its inputs in parentheses,
`->`, its output, and its body in braces.

* `MethodTokens` are these parts, and `Method.trees_phrase` says that a method is written so;
* `Accessor.tokens`, `Conversion.tokens`, `Expansion.constructorTokens` and `ConversionCall.tokens`
  are the methods of an expansion in full: `&self.storage.name` is the body of an accessor, a
  literal of the struct that of the constructor, and a call of the library that of a conversion. -/

namespace RequestGroups

open Source Grammar

variable {c : Config} {e : Expansion}

/-! ### Single tokens -/

namespace Source.TokenTree

/-- A word that no source text spells. -/
abbrev word (name : String) : TokenTree := .ident (.plain name)

/-- A sign that no other sign follows at once. -/
abbrev sign (character : Char) : TokenTree := .punct character false .callSite

/-- Tokens in delimiters. -/
abbrev within (d : Delimiter) (inner : List TokenTree) : TokenTree :=
  .group d .callSite .callSite inner

/-- The sign `::`. -/
abbrev colons : List TokenTree := [.punct ':' true .callSite, .sign ':']

/-- The sign `->`. -/
abbrev arrow : List TokenTree := [.punct '-' true .callSite, .sign '>']

/-- Lists of tokens with commas between them. -/
abbrev listed (pieces : List (List TokenTree)) : List TokenTree :=
  List.intercalate [.sign ','] pieces

end Source.TokenTree

open TokenTree (word sign within colons arrow listed)

/-! ### Methods -/

/-- The parts of a method in tokens. -/
structure MethodTokens where
  attributes : List TokenTree
  visibility : List TokenTree
  name : Ident
  inputs : List TokenTree
  output : List TokenTree
  body : List TokenTree

/-- The tokens of a method. -/
def MethodTokens.trees (m : MethodTokens) : List TokenTree :=
  m.attributes ++ m.visibility ++ [word "fn", .ident m.name, within .paren m.inputs] ++ arrow ++
    m.output ++ [within .brace m.body]

/-- The parts of a method. -/
def Method.tokens (m : Method) : MethodTokens where
  attributes := m.attributes.flatMap Attribute.trees
  visibility := m.visibility.trees
  name := m.name
  inputs := m.inputs.trees
  output := m.output.trees
  body := m.body.trees

/-- **A method** is written part by part. -/
theorem Method.trees_phrase (m : Method) : m.phrase.trees = m.tokens.trees := by
  simp only [phrase, Phrase.trees_append, Phrase.trees_group, Attribute.trees_phraseOf,
    MethodTokens.trees, List.append_assoc]
  rfl

theorem trees_commas_map (phrase : β → Phrase) (l : List β) :
    (commas (l.map phrase)).trees = listed (l.map fun b => (phrase b).trees) := by
  rw [commas, Phrase.trees_intercalate, List.map_map]
  rfl

/-! ### Accessors -/

/-- The receiver `&self`. -/
def receiverTokens : List TokenTree := [sign '&', word "self"]

/-- The group in a field, by reference. -/
def groupTokens (storage : Ident) : List TokenTree :=
  [sign '&', word "self", sign '.', .ident storage]

/-- The tokens of an accessor: it gives a reference to a member of the group of its field. -/
def Accessor.tokens (a : Accessor) (e : Expansion) : MethodTokens where
  attributes := a.docs.flatMap Attribute.trees ++ [sign '#', within .bracket [word "inline"]]
  visibility := a.visibility.trees
  name := a.name
  inputs := receiverTokens
  output := sign '&' :: a.type.trees
  body := groupTokens (e.storage.fieldOf a.owner) ++ [sign '.', .ident a.name]

theorem Accessor.tokens_method (a : Accessor) (e : Expansion) :
    (a.method e).tokens = a.tokens e := by
  simp only [Method.tokens, method, List.flatMap_append, Phrase.trees_append]
  rfl

/-! ### Conversions of the struct -/

/-- A call of the method of the trait for the struct itself. -/
def forwardTokens (c : Config) (name : Ident) : List TokenTree :=
  [sign '<', word "Self", word "as"] ++ (c.runtimePath ["RequestModel"]).trees ++ [sign '>'] ++
    colons ++ [.ident name, within .paren [word "self"]]

/-- The tokens of a conversion that does not fail: it calls the method of the same name of the
trait. -/
def Conversion.tokens (v : Conversion) (e : Expansion) (c : Config) : MethodTokens where
  attributes := [sign '#', within .bracket [word "doc", sign '=', quoted v.doc]]
  visibility := e.declaration.visibility.trees
  name := v.name
  inputs := receiverTokens
  output := (c.runtimePath [dictionaryType v.role]).trees
  body := forwardTokens c v.name

theorem Conversion.trees_body (v : Conversion) (e : Expansion) (c : Config) :
    (v.method e c).body.trees = forwardTokens c v.name := by
  simp only [method, callPhrase, Phrase.trees_append, forwardTokens, List.append_assoc]
  rfl

theorem Conversion.tokens_method (v : Conversion) (e : Expansion) (c : Config) :
    (v.method e c).tokens = v.tokens e c := by
  have body : (v.method e c).body.trees = (v.tokens e c).body := v.trees_body e c
  rw [Method.tokens, body]
  rfl

/-! ### The constructor -/

/-- The default value of a type. -/
def defaultTokens : List TokenTree :=
  colons ++ [word "core"] ++ colons ++ [word "default"] ++ colons ++ [word "Default"] ++ colons ++
    [word "default", within .paren []]

/-- A field of a literal of the struct. -/
def fieldTokens (name : Ident) (value : List TokenTree) : List TokenTree :=
  [.ident name, sign ':'] ++ value ++ [sign ',']

namespace Expansion

/-- The tokens of the constructor: a literal of the struct, in which each group is a literal of its
record, whose fields are the parameters of their names, and each plain field has its default. -/
def constructorTokens (e : Expansion) : MethodTokens where
  attributes := [sign '#', within .bracket [word "allow",
    within .paren ([word "clippy"] ++ colons ++ [word "too_many_arguments"])]]
  visibility := e.constructor.visibility.trees
  name := e.constructor.name
  inputs := listed (e.constructor.parameters.map fun p => [.ident p.name, sign ':'] ++ p.type.trees)
  output := [word "Self"]
  body := [word "Self", within .brace (
    (Role.all.flatMap fun r => fieldTokens (e.storage.fieldOf r) [.ident (e.record r).name,
      within .brace (listed ((e.groupLiteral r).names.map fun n => [.ident n]))]) ++
    e.constructor.defaulted.flatMap fun n => fieldTokens n defaultTokens)]

theorem trees_constructorCode (e : Expansion) :
    e.constructorCode.phrase.trees = e.constructorTokens.body := by
  have group : ∀ r, (ConstructorCode.fieldPhrase (e.storage.fieldOf r)
      (.group (e.groupLiteral r))).trees = fieldTokens (e.storage.fieldOf r)
        [.ident (e.record r).name,
          within .brace (listed ((e.groupLiteral r).names.map fun n => [.ident n]))] := by
    intro r
    simp only [ConstructorCode.fieldPhrase, Initializer.phrase, GroupLiteral.phrase,
      Phrase.trees_append, Phrase.trees_group, trees_commas_map]
    rfl
  have default : ∀ n, (ConstructorCode.fieldPhrase n .default).trees =
      fieldTokens n defaultTokens := by
    intro n
    simp only [ConstructorCode.fieldPhrase, Initializer.phrase, Phrase.trees_append,
      Phrase.trees_group]
    rfl
  simp only [ConstructorCode.phrase, constructorCode, List.flatMap_append, List.flatMap_map,
    Phrase.trees_append, Phrase.trees_group, Phrase.trees_flatMap, group, default]
  rfl

theorem tokens_constructorMethod (e : Expansion) :
    e.constructorMethod.tokens = e.constructorTokens := by
  have inputs : e.constructorMethod.inputs.trees = e.constructorTokens.inputs := by
    simp only [constructorMethod, trees_commas_map, Parameter.phrase, Phrase.trees_append]
    rfl
  have body : e.constructorMethod.body.trees = e.constructorTokens.body := trees_constructorCode e
  rw [Method.tokens, inputs, body]
  rfl

end Expansion

/-! ### Conversions of the trait -/

namespace ConversionCall

/-- What a policy adds to the arguments of a call: settings with the policy, by reference. -/
def settingsTokens (c : Config) (policy : HeaderPolicy) : List TokenTree :=
  [sign ',', sign '&'] ++ (c.runtimePath ["config", "ConversionConfig", "new"]).trees ++
    [within .paren ((c.runtimePath ["config", "HeaderValuePolicy",
      if policy = .strict then "Strict" else "Stringify"]).trees ++ [sign ',']), sign ',']

/-- The tokens of a conversion that may fail: it calls the library for the group in a field, with
the policy if there is one. -/
def tokens (v : ConversionCall) (c : Config) : MethodTokens where
  attributes := []
  visibility := []
  name := .plain (fallibleName v.role)
  inputs := receiverTokens ++ [sign ',']
  output := (c.runtimePath ["errors", "ConversionResult"]).trees ++ [sign '<'] ++
    (c.runtimePath [dictionaryType v.role]).trees ++ [sign '>']
  body := (c.runtimePath ["conversion", fallibleName v.role]).trees ++
    [within .paren (groupTokens v.storage ++ v.policy.elim [] (settingsTokens c))]

theorem trees_arguments (v : ConversionCall) (c : Config) : (v.arguments c).trees =
    groupTokens v.storage ++ v.policy.elim [] (settingsTokens c) := by
  rw [arguments, Phrase.trees_append]
  cases v.policy with
  | none => rfl
  | some policy =>
    simp only [Option.elim_some, Config.conversionSettings, callPhrase, Phrase.trees_append,
      Phrase.trees_group, settingsTokens, List.append_assoc]
    cases policy <;> rfl

theorem tokens_method (v : ConversionCall) (c : Config) : (v.method c).tokens = v.tokens c := by
  simp only [Method.tokens, method, phrase, callPhrase, Phrase.trees_append, Phrase.trees_group,
    trees_arguments]
  rfl

end ConversionCall

end RequestGroups
