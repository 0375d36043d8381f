import RequestGroups.Instance.Basic
import RequestGroups.Sample.Decoding

/-! # Sample requests

A sample is a declaration whose fields have known types, so that its expansion can be run.

* `Sample.expanded?` is a sample with its expansion;
* `Sample.Expanded` has what the expanded struct offers: its constructor, its accessors, its
  dictionaries and what its derives give. -/

namespace RequestGroups

open Source Grammar

/-- A field of a sample. -/
structure Sample.Member where
  name : Ident
  type : Sample.ValueType
  marker : Option Marker
  /-- Whether the field is left out of its group where its value is missing. -/
  leftOut : Bool
  /-- Whether the field may be missing where the struct is read. -/
  mayBeMissing : Bool

namespace Sample.Member

/-- The attributes of the field that are no markers. -/
def attributes (f : Member) : List Attribute :=
  (if f.leftOut then [attributeOf "serde" (assignment "skip_serializing_if" "Option::is_none")]
    else []) ++
  (if f.mayBeMissing then [attributeOf "serde" (Phrase.word "default").trees] else [])

/-- The field as it is declared. -/
def field (f : Member) : Field :=
  ⟨f.name, f.type.phrase, Phrase.word "pub", f.marker.toList, f.attributes⟩

end Sample.Member

/-- A declaration with types for its fields. -/
structure Sample where
  name : String
  /-- The names of the derives. -/
  derives : List String
  config : Config
  fields : List Sample.Member

namespace Sample

/-- The declaration of the sample. -/
def declaration (s : Sample) : Declaration where
  name := .plain s.name
  visibility := Phrase.word "pub"
  kind := .struct
  attributes := [GroupRecord.deriveAttribute (s.derives.map fun d => .ofNames false [d])]
  derives := s.derives.map fun d => .ofNames false [d]
  fields := s.fields.map Member.field

/-- A sample with its expansion. -/
structure Expanded where
  sample : Sample
  expansion : Expansion
  expands : sample.declaration.expand sample.config = .ok expansion

/-- The sample with its expansion. -/
def expanded? (s : Sample) : Option Expanded :=
  match h : s.declaration.expand s.config with
  | .ok e => some ⟨s, e, h⟩
  | .error _ => none

/-- The field with a name. -/
def field? (s : Sample) (name : Ident) : Option Member :=
  s.fields.find? (·.name.spells name.spelling)

/-! ### Expanded samples -/

namespace Expanded

/-- Whether the struct has a derive. -/
def derives (x : Expanded) (name : String) : Bool := x.sample.derives.contains name

/-- The type of a field. -/
def type? (x : Expanded) (name : Ident) : Option ValueType :=
  (x.sample.field? name).map (·.type)

/-- The default of a field. -/
def initial? (x : Expanded) (name : Ident) : Option Value :=
  (x.type? name).map ValueType.initial

/-- Reads a value for a field. -/
def decodeField? (x : Expanded) (name : Ident) (v : JsonValue) : Option Value := do
  ((← x.type? name).decode v).toOption

/-- The instance that the constructor builds from JSON values for its parameters. -/
def construct? (x : Expanded) (arguments : List JsonValue) : Option (Instance Value) := do
  let parameters := x.expansion.constructor.parameters
  if arguments.length ≠ parameters.length then none
  let values ← (parameters.zip arguments).mapM fun (p, v) => x.decodeField? p.name v
  x.expansion.construct x.initial? values

/-- The instance of which all members are defaults, if the struct derives it. -/
def default? (x : Expanded) : Option (Instance Value) := do
  if !x.derives "Default" then none
  let values ← x.expansion.constructor.parameters.mapM fun p => x.initial? p.name
  x.expansion.construct x.initial? values

/-! ### Members -/

/-- The plain field with a name. -/
def plainField? (x : Expanded) (name : String) : Option Field :=
  x.expansion.plainFields.find? (·.name.spells name)

/-- The value that an accessor gives, or a plain field holds. -/
def get? (x : Expanded) (i : Instance Value) (name : String) : Option Value :=
  match x.expansion.accessor? name with
  | some a => (x.expansion.projection a).run i
  | none => (x.plainField? name).bind fun f => i.plain? f.name

/-- The instance with another value in a plain field. -/
def set? (x : Expanded) (i : Instance Value) (name : String) (v : JsonValue) :
    Option (Instance Value) := do
  let f ← x.plainField? name
  return i.set f.name (← x.decodeField? f.name v)

/-! ### Dictionaries -/

/-- The datum of a member of a group. -/
def present (x : Expanded) (f : GroupField) (v : Value) : Option Data :=
  if v.isMissing && (x.sample.field? f.name).any (·.leftOut) then none else some v.data

/-- The conversions of the struct that may fail. -/
def requestModel (x : Expanded) : RequestModel (Instance Value) :=
  x.expansion.requestModel x.sample.config x.present

/-- The dictionary of the headers. -/
def headersOrProblem (x : Expanded) (i : Instance Value) :
    Logged (Except DictionaryProblem (Text.KeyMap String)) :=
  x.requestModel.orProblem .header i

/-- The dictionary of the body. -/
def bodyOrProblem (x : Expanded) (i : Instance Value) :
    Logged (Except DictionaryProblem (Text.KeyMap JsonValue)) :=
  x.requestModel.orProblem .body i

/-- The dictionary of the headers, empty if there is a problem. -/
def headersOrEmpty (x : Expanded) (i : Instance Value) : Logged (Text.KeyMap String) :=
  x.requestModel.orEmpty .header i

/-- The dictionary of the body, empty if there is a problem. -/
def bodyOrEmpty (x : Expanded) (i : Instance Value) : Logged (Text.KeyMap JsonValue) :=
  x.requestModel.orEmpty .body i

/-! ### Text for programmers -/

/-- A struct with the texts of its fields. -/
def displayRecord (name : String) (fields : List (String × String)) : String :=
  if fields.isEmpty then name
  else name ++ " \x7b " ++ ", ".intercalate (fields.map fun (n, t) => n ++ ": " ++ t) ++ " \x7d"

/-- The text of a group. -/
def displayGroup (x : Expanded) (i : Instance Value) (r : Role) : String :=
  let members := (i.members? (x.expansion.storage.fieldOf r)).getD []
  displayRecord (x.expansion.record r).name.name
    (members.map fun (n, v) => (n.name, v.display))

/-- The text of an instance, if the struct derives one. -/
def display? (x : Expanded) (i : Instance Value) : Option String :=
  if x.derives "Debug" then
    let groups := Role.all.map fun r =>
      ((x.expansion.storage.fieldOf r).name, x.displayGroup i r)
    let plain := x.expansion.plainFields.filterMap fun f =>
      (i.plain? f.name).map fun v => (f.name.name, v.display)
    some (displayRecord x.sample.name (groups ++ plain))
  else none

/-- Whether an instance equals the one that the constructor builds from some arguments, if the
struct derives a comparison. -/
def same? (x : Expanded) (i : Instance Value) (arguments : List JsonValue) : Option Bool := do
  if !x.derives "PartialEq" then none
  return i == (← x.construct? arguments)

/-! ### Reading -/

/-- How a group is read. -/
def expectedGroup (x : Expanded) (r : Role) : Expected (Slot Value) :=
  let record := x.expansion.record r
  let fields := record.fields.map fun f =>
    (⟨f.key, ((x.type? f.name).getD .json).decode, none⟩ : Expected Value)
  ⟨(x.expansion.storage.fieldOf r).name, fun v => do
    let values ← decodeRecord record.name.name fields v
    return .group ((record.fields.map (·.name)).zip values), none⟩

/-- How a plain field is read. -/
def expectedField (x : Expanded) (f : Field) : Expected (Slot Value) :=
  let type := (x.type? f.name).getD .json
  ⟨f.name.name, fun v => (type.decode v).map .plain,
    if (x.sample.field? f.name).any (·.mayBeMissing) then some (.plain type.initial) else none⟩

/-- Reads an instance from JSON, if the struct derives it. -/
def decode? (x : Expanded) (v : JsonValue) :
    Option (Except DecodingProblem (Instance Value)) :=
  if x.derives "Deserialize" then
    let names := Role.all.map x.expansion.storage.fieldOf ++ x.expansion.plainFields.map (·.name)
    let fields := Role.all.map x.expectedGroup ++ x.expansion.plainFields.map x.expectedField
    some ((decodeRecord x.sample.name fields v).map names.zip)
  else none

end Expanded

end Sample

end RequestGroups
