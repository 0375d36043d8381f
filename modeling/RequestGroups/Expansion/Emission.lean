import RequestGroups.Expansion.Code

/-! # Emission

The tokens of an expansion: the records of the groups, the struct, one implementation with all
methods, and the implementation of the conversions that may fail.

* `Expansion.emitPart` emits one of the generated parts, either to the records or to the methods;
* `Expansion.emit` is the whole: what is emitted for the parts one after the other, with the struct
  in between. -/

namespace RequestGroups

open Source Grammar

/-! ### Structs -/

/-- The record of a group. -/
def GroupRecord.emit (g : GroupRecord) (d : Declaration) (c : Config) : Phrase :=
  (g.code c d).phrase

/-- The declared struct. -/
def Expansion.emitStruct (e : Expansion) : Phrase := e.structCode.phrase

/-! ### Methods -/

/-- Reads a member of a group, by reference. -/
def Accessor.method (a : Accessor) (e : Expansion) : Method where
  attributes := a.docs ++ [⟨false, ⟨.ofNames false ["inline"], .none, .callSite⟩⟩]
  visibility := a.visibility
  name := a.name
  inputs := receiverPhrase
  output := Phrase.sign "&" ++ a.type
  body := (e.projection a).phrase

/-- The name of the dictionary type of a group. -/
def dictionaryType : Role → String
  | .header => "HeaderMap"
  | .body => "BodyMap"

/-- The word for the members of a group in documentation. -/
def groupTitle : Role → String
  | .header => "Header"
  | .body => "Body"

/-- The documentation of a conversion. -/
def Conversion.doc (v : Conversion) : String :=
  groupTitle v.role ++
    " fields keyed by their serialization key, empty if they cannot be encoded"

/-- Gives the dictionary of a group, which is empty if the group cannot be encoded: the method of
the same name of the trait. -/
def Conversion.method (v : Conversion) (e : Expansion) (c : Config) : Method where
  attributes := [⟨false, ⟨.ofNames false ["doc"],
    .value .callSite [.verbatim (quoted v.doc)] none, .callSite⟩⟩]
  visibility := e.declaration.visibility
  name := v.name
  inputs := receiverPhrase
  output := c.runtimeName [dictionaryType v.role]
  body := callPhrase
    (Phrase.sign "<" ++ Phrase.word "Self" ++ Phrase.word "as" ++ c.runtimeName ["RequestModel"] ++
      Phrase.sign ">" ++ Phrase.sign "::" ++ Phrase.ident v.name)
    (Phrase.word "self")

/-- A parameter with its type. -/
def Parameter.phrase (p : Parameter) : Phrase := Phrase.ident p.name ++ Phrase.sign ":" ++ p.type

/-- Takes the members of both groups and builds the struct. -/
def Expansion.constructorMethod (e : Expansion) : Method where
  attributes := [attributeOf "allow" (Path.ofNames false ["clippy", "too_many_arguments"]).trees]
  visibility := e.constructor.visibility
  name := e.constructor.name
  inputs := commas (e.constructor.parameters.map Parameter.phrase)
  output := Phrase.word "Self"
  body := e.constructorCode.phrase

/-! ### The trait -/

/-- The settings of a conversion with a policy, as a reference. -/
def Config.conversionSettings (c : Config) (policy : HeaderPolicy) : Phrase :=
  Phrase.sign "&" ++ callPhrase (c.runtimeName ["config", "ConversionConfig", "new"])
    (c.runtimeName ["config", "HeaderValuePolicy", policy.variant] ++ Phrase.sign ",")

/-- The name of the conversion of a group that may fail. -/
def fallibleName (r : Role) : String := "try_" ++ conversionName r

namespace ConversionCall

/-- What the function is called with. -/
def arguments (v : ConversionCall) (c : Config) : Phrase :=
  groupPhrase v.storage ++
    v.policy.elim [] fun policy =>
      Phrase.sign "," ++ c.conversionSettings policy ++ Phrase.sign ","

/-- The call as a phrase. -/
def phrase (v : ConversionCall) (c : Config) : Phrase :=
  callPhrase (c.runtimeName ["conversion", fallibleName v.role]) (v.arguments c)

/-- The conversion that consists of the call. -/
def method (v : ConversionCall) (c : Config) : Method where
  attributes := []
  visibility := []
  name := .plain (fallibleName v.role)
  inputs := receiverPhrase ++ Phrase.sign ","
  output := c.runtimeName ["errors", "ConversionResult"] ++ Phrase.sign "<" ++
    c.runtimeName [dictionaryType v.role] ++ Phrase.sign ">"
  body := v.phrase c

end ConversionCall

/-- The conversions that may fail, headers first. -/
def Expansion.traitMethods (e : Expansion) (c : Config) : List Method :=
  Role.all.map fun r => (e.conversionCall c r).method c

/-- The implementation of the trait. -/
def Expansion.emitTrait (e : Expansion) (c : Config) : Phrase :=
  Phrase.word "impl" ++ c.runtimeName ["RequestModel"] ++ Phrase.word "for" ++
    Phrase.ident e.declaration.name ++
    Phrase.group .brace ((e.traitMethods c).flatMap Method.phrase)

/-! ### Parts one after the other -/

/-- What the parts so far have emitted: the records, and the methods of the struct. -/
structure Emitted where
  records : Phrase := []
  methods : Phrase := []

namespace Emitted

/-- Adds a record. -/
def addRecord (b : Emitted) (record : Phrase) : Emitted := { b with records := b.records ++ record }

/-- Adds a method. -/
def addMethod (b : Emitted) (m : Method) : Emitted := { b with methods := b.methods ++ m.phrase }

end Emitted

/-- Emits a part behind what is emitted already. -/
def Expansion.emitPart (e : Expansion) (c : Config) (b : Emitted) : Generated → Emitted
  | .headerRecord record | .bodyRecord record => b.addRecord (record.emit e.declaration c)
  | .accessor a => b.addMethod (a.method e)
  | .headersConversion v | .bodyConversion v => b.addMethod (v.method e c)
  | .constructor _ => b.addMethod e.constructorMethod

/-- What all parts emit. -/
def Expansion.emitParts (e : Expansion) (c : Config) : Emitted :=
  e.parts.foldl (e.emitPart c) {}

/-! ### The whole -/

/-- The implementation of the struct that holds the given methods. -/
def Expansion.implementation (e : Expansion) (methods : Phrase) : Phrase :=
  (attributeOf "allow" (Phrase.word "dead_code").trees).phrase ++ Phrase.word "impl" ++
    Phrase.ident e.declaration.name ++ Phrase.group .brace methods

/-- Everything that is generated. -/
def Expansion.emit (e : Expansion) (c : Config) : Phrase :=
  (e.emitParts c).records ++ e.emitStruct ++ e.implementation (e.emitParts c).methods ++
    e.emitTrait c

/-- The methods of the struct: accessors, conversions and the constructor. -/
def Expansion.methods (e : Expansion) (c : Config) : List Method :=
  e.accessors.map (·.method e) ++
    [e.headersConversion.method e c, e.bodyConversion.method e c, e.constructorMethod]

/-- The implementation that holds the methods. -/
def Expansion.emitMethods (e : Expansion) (c : Config) : Phrase :=
  e.implementation ((e.methods c).flatMap Method.phrase)

end RequestGroups
