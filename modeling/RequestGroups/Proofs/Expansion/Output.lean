import RequestGroups.Proofs.Expansion.MethodTokens
import RequestGroups.Proofs.Grammar.StructReading

/-! # The whole output as tokens

The generated parts are emitted one after the other, each of them behind the records or behind the
methods that are emitted already. The struct and the implementations are put in afterwards.

* `StructItem.tokens` are the tokens of a struct in braces, as all emitted structs are;
* `emitPart_eq` says what one part adds, and `foldl_emitPart` what any number of parts adds;
* `Expansion.tokens` is the output with every struct and method written out, and `trees_emit` says
  that it is what is emitted. -/

namespace RequestGroups

open Source Grammar
open TokenTree (word sign within)

variable {c : Config} {e : Expansion}

/-! ### Structs -/

/-- The fields of a struct with braces. -/
def Grammar.StructItem.items (s : StructItem) : List FieldItem :=
  match s.fields with
  | .named l => l.fields
  | _ => []

/-- The tokens of a field. -/
def Grammar.FieldItem.tokens (f : FieldItem) : List TokenTree :=
  f.attributes.flatMap Attribute.trees ++ f.visibility.trees ++
    f.name.elim [] (fun n => [.ident n, sign ':']) ++ f.type.trees

/-- The tokens of a struct with braces, a comma behind each of its fields. -/
def Grammar.StructItem.tokens (s : StructItem) : List TokenTree :=
  s.attributes.flatMap Attribute.trees ++ s.visibility.trees ++ [word "struct", .ident s.name,
    within .brace (s.items.flatMap fun f => f.tokens ++ [sign ','])]

theorem Grammar.FieldItem.trees_phrase (f : FieldItem) : f.phrase.trees = f.tokens := by
  simp only [phrase, Phrase.trees_append, Attribute.trees_flatMap_fieldPhrase]
  rcases f with ⟨_, _, _ | n, _⟩ <;> rfl

theorem structTrees_eq (name : Ident) (fs : List FieldItem) : structTrees name fs =
    [word "struct", .ident name, within .brace (fs.flatMap fun f => f.tokens ++ [sign ','])] := by
  rw [structTrees, bracesOf, List.flatMap_congr fun f _ => by rw [f.trees_phrase]]
  rfl

theorem structCode_eq (e : Expansion) : e.structCode = .braced e.declaration.attributes
    e.declaration.visibility e.declaration.name
      (Role.all.map e.storageField ++ e.plainFields.map Field.item) := rfl

theorem code_eq (g : GroupRecord) (d : Declaration) : g.code c d =
    .braced [GroupRecord.deriveAttribute (GroupRecord.derives c d), GroupRecord.crateAttribute c]
      [] g.name (g.fields.map GroupRecord.fieldCode) := by
  -- without fields there is no comma, but there are braces
  have trailing : (g.fields.map GroupRecord.fieldCode).isEmpty = g.fields.isEmpty :=
    List.isEmpty_map
  rw [StructItem.braced, trailing]
  rfl

theorem trees_emitStruct (e : Expansion) : e.emitStruct.trees = e.structCode.tokens := by
  rw [Expansion.emitStruct, structCode_eq, trees_braced, structTrees_eq, ← List.append_assoc]
  rfl

theorem trees_emitRecord (g : GroupRecord) (d : Declaration) :
    (g.emit d c).trees = (g.code c d).tokens := by
  rw [GroupRecord.emit, code_eq, trees_braced, structTrees_eq, ← List.append_assoc]
  rfl

/-! ### What parts add -/

namespace Generated

/-- The record that the part is. -/
def record? : Generated → Option GroupRecord
  | headerRecord g | bodyRecord g => some g
  | _ => none

/-- The method that the part becomes. -/
def method? (e : Expansion) (c : Config) : Generated → Option Method
  | headerRecord _ | bodyRecord _ => none
  | accessor a => some (a.method e)
  | headersConversion v | bodyConversion v => some (v.method e c)
  | constructor _ => some e.constructorMethod

end Generated

namespace Expansion

/-- The records among some parts, as a phrase. -/
def recordsPhrase (e : Expansion) (c : Config) (ps : List Generated) : Phrase :=
  (ps.filterMap Generated.record?).flatMap fun g => g.emit e.declaration c

/-- The methods that some parts become, as a phrase. -/
def methodsPhrase (e : Expansion) (c : Config) (ps : List Generated) : Phrase :=
  (ps.filterMap (Generated.method? e c)).flatMap Method.phrase

theorem recordsPhrase_append (ps qs : List Generated) :
    e.recordsPhrase c (ps ++ qs) = e.recordsPhrase c ps ++ e.recordsPhrase c qs := by
  rw [recordsPhrase, List.filterMap_append, List.flatMap_append]
  rfl

theorem methodsPhrase_append (ps qs : List Generated) :
    e.methodsPhrase c (ps ++ qs) = e.methodsPhrase c ps ++ e.methodsPhrase c qs := by
  rw [methodsPhrase, List.filterMap_append, List.flatMap_append]
  rfl

/-- A part is added behind the records or behind the methods. -/
theorem emitPart_eq (b : Emitted) (p : Generated) : e.emitPart c b p =
    ⟨b.records ++ e.recordsPhrase c [p], b.methods ++ e.methodsPhrase c [p]⟩ := by
  cases p <;> simp [emitPart, Emitted.addRecord, Emitted.addMethod, recordsPhrase, methodsPhrase,
    Generated.record?, Generated.method?]

/-- **Any number of parts** in any order leave the records in their order and the methods in their
order. -/
theorem foldl_emitPart (ps : List Generated) (b : Emitted) : ps.foldl (e.emitPart c) b =
    ⟨b.records ++ e.recordsPhrase c ps, b.methods ++ e.methodsPhrase c ps⟩ := by
  induction ps generalizing b with
  | nil => simp [recordsPhrase, methodsPhrase]
  | cons p ps ih =>
    have split : p :: ps = [p] ++ ps := rfl
    rw [List.foldl_cons, ih, emitPart_eq, split, recordsPhrase_append, methodsPhrase_append,
      List.append_assoc, List.append_assoc]

/-! ### The parts of an expansion -/

theorem records_parts : e.parts.filterMap Generated.record? = [e.headerRecord, e.bodyRecord] := by
  have accessors : (e.accessors.map Generated.accessor).filterMap Generated.record? = [] := by
    simp [Generated.record?]
  rw [parts, List.filterMap_append, List.filterMap_append, accessors]
  rfl

theorem methods_parts : e.parts.filterMap (Generated.method? e c) = e.methods c := by
  have accessors : (e.accessors.map Generated.accessor).filterMap (Generated.method? e c) =
      e.accessors.map (·.method e) := by
    rw [List.filterMap_map, ← List.filterMap_eq_map]
    rfl
  rw [parts, List.filterMap_append, List.filterMap_append, accessors]
  rfl

theorem emitParts_eq : e.emitParts c =
    ⟨e.headerRecord.emit e.declaration c ++ e.bodyRecord.emit e.declaration c,
      (e.methods c).flatMap Method.phrase⟩ := by
  rw [emitParts, foldl_emitPart, recordsPhrase, methodsPhrase, records_parts, methods_parts]
  simp

@[simp] theorem records_emitParts : (e.emitParts c).records =
    e.headerRecord.emit e.declaration c ++ e.bodyRecord.emit e.declaration c := by
  rw [emitParts_eq]

@[simp] theorem implementation_emitParts :
    e.implementation (e.emitParts c).methods = e.emitMethods c := by
  rw [emitParts_eq, emitMethods]

/-! ### The whole output -/

theorem trees_implementation (methods : Phrase) : (e.implementation methods).trees =
    [.punct '#' false .callSite,
      .group .bracket .callSite .callSite [.ident (.plain "allow"),
        .group .paren .callSite .callSite [.ident (.plain "dead_code")]],
      .ident (.plain "impl"), .ident e.declaration.name,
      .group .brace .callSite .callSite methods.trees] := by
  simp only [implementation, Phrase.trees_append]
  rfl

/-- The tokens of the methods of the struct. -/
def methodTokens (e : Expansion) (c : Config) : List MethodTokens :=
  e.accessors.map (·.tokens e) ++
    [e.headersConversion.tokens e c, e.bodyConversion.tokens e c, e.constructorTokens]

/-- The tokens of the methods of the trait. -/
def traitTokens (e : Expansion) (c : Config) : List MethodTokens :=
  Role.all.map fun r => (e.conversionCall c r).tokens c

theorem tokens_methods (e : Expansion) (c : Config) :
    (e.methods c).map Method.tokens = e.methodTokens c := by
  simp only [methods, List.map_append, List.map_map, List.map_cons, List.map_nil, methodTokens,
    Conversion.tokens_method, tokens_constructorMethod]
  rw [List.map_congr_left fun a _ => a.tokens_method e]

theorem tokens_traitMethods (e : Expansion) (c : Config) :
    (e.traitMethods c).map Method.tokens = e.traitTokens c := by
  rw [traitMethods, List.map_map]
  exact List.map_congr_left fun r _ => ConversionCall.tokens_method _ c

theorem trees_methods (ms : List Method) :
    Phrase.trees (ms.flatMap Method.phrase) = (ms.map Method.tokens).flatMap MethodTokens.trees := by
  rw [Phrase.trees_flatMap, List.flatMap_map]
  exact List.flatMap_congr fun m _ => m.trees_phrase

/-- The tokens of an expansion: the records, the struct, and two implementations, which hold the
methods. -/
def tokens (e : Expansion) (c : Config) : List TokenTree :=
  (e.headerRecord.code c e.declaration).tokens ++ (e.bodyRecord.code c e.declaration).tokens ++
    e.structCode.tokens ++
    [sign '#', within .bracket [word "allow", within .paren [word "dead_code"]],
      word "impl", .ident e.declaration.name,
      within .brace ((e.methodTokens c).flatMap MethodTokens.trees)] ++
    ([word "impl"] ++ (c.runtimePath ["RequestModel"]).trees ++
      [word "for", .ident e.declaration.name,
        within .brace ((e.traitTokens c).flatMap MethodTokens.trees)])

theorem trees_emitTrait (e : Expansion) (c : Config) : (e.emitTrait c).trees =
    [word "impl"] ++ (c.runtimePath ["RequestModel"]).trees ++
      [word "for", .ident e.declaration.name,
        within .brace ((e.traitTokens c).flatMap MethodTokens.trees)] := by
  simp only [emitTrait, Phrase.trees_append, Phrase.trees_group, trees_methods,
    tokens_traitMethods, List.append_assoc]
  rfl

/-- **What is emitted**, with every struct and method written out. -/
theorem trees_emit (e : Expansion) (c : Config) : (e.emit c).trees = e.tokens c := by
  simp only [emit, records_emitParts, implementation_emitParts, emitMethods, Phrase.trees_append,
    trees_emitRecord, trees_emitStruct, trees_implementation, trees_methods, tokens_methods,
    trees_emitTrait, tokens]

end Expansion

end RequestGroups
