import RequestGroups.Config.Basic
import RequestGroups.Expansion.Partition

/-! # Validation

A declaration is refused if its shape is not supported, or if a name or a key would be used twice.
Names are compared without the mark of raw identifiers.

* `Declaration.violation?` is the first problem of a declaration alone;
* `Partition.violation?` is the first problem of its partition: a field with the name of a storage
  field, a reserved constructor, a member of a group with a reserved name or a second name, and two
  members with one key, in this order. -/

namespace RequestGroups

open Source Grammar

/-- The first element whose key another one in front of it has, behind the one in front. The
elements of `seen` stand in front of all others. -/
def firstRepeat [BEq β] (key : α → β) (seen : List α) : List α → Option (α × α)
  | [] => none
  | a :: rest =>
    match seen.find? fun b => key b == key a with
    | some b => some (b, a)
    | none => firstRepeat key (seen ++ [a]) rest

/-- The first problem of a declaration alone. -/
def Declaration.violation? (d : Declaration) : Option Diagnostic :=
  if d.kind ≠ .struct then some ⟨.unsupportedKind d.kind, d.name.span⟩
  else (firstRepeat (·.name.name) [] d.fields).map fun (_, f) =>
    ⟨.duplicateField f.name.spelling, f.name.span⟩

/-- The name of the conversion of a group. -/
def conversionName : Role → String
  | .header => "headers_dictionary"
  | .body => "body_dictionary"

/-- Whether a name is the name of a conversion. -/
def isConversionName (name : String) : Bool := Role.all.any fun r => conversionName r == name

/-! ### Names -/

/-- A field with the name of a storage field. -/
def storageClash? (c : Config) (f : Field) : Option Diagnostic :=
  if Role.all.any fun r => (c.storage r).name == f.name.name then
    some ⟨.reservedField f.name.spelling .storageField, f.name.span⟩
  else none

/-- A constructor with the name of a conversion. -/
def constructorClash? (c : Config) : Option Diagnostic :=
  if isConversionName c.constructor.name then
    some ⟨.reservedConstructor c.constructor.spelling .conversionMethod, c.constructor.span⟩
  else none

/-- What is generated under a name, apart from the storage fields. -/
def generatedFor? (c : Config) (name : String) : Option Purpose :=
  if name == c.constructor.name then some .constructor
  else if isConversionName name then some .conversionMethod
  else none

/-- A member of a group with the name of a generated method. -/
def methodClash? (c : Config) (m : ClassifiedField) : Option Diagnostic :=
  (generatedFor? c m.field.name.name).map fun purpose =>
    ⟨.reservedField m.field.name.spelling purpose, m.field.name.span⟩

/-! ### Renames -/

/-- The entries of an attribute list. -/
def entries (g : Nonterminals) : Reader (List Entry) := Reader.listOf (Rules.entry g)

/-- The entries that an attribute lists in delimiters, if it lists entries. -/
def Grammar.Attribute.entries? (a : Attribute) : Option (List Entry) :=
  match a.entry.argument with
  | .list _ _ closes tokens => (Grammar.readAll closes entries tokens).toOption
  | _ => none

/-- Whether an entry gives another name. -/
def Grammar.Entry.isRename (e : Entry) : Bool := e.path.isName "rename"

/-- The entry of an attribute that renames its field. -/
def renameEntry? (a : Attribute) : Option Entry :=
  if a.path.isName "serde" then a.entries?.bind (·.find? Entry.isRename) else none

/-- The string after the equals sign of an entry. -/
def Grammar.Entry.stringValue? (e : Entry) : Option String :=
  match e.argument with
  | .value _ _ value => value
  | _ => none

/-- The tag that a member of a group is known by. -/
def ClassifiedField.tag (m : ClassifiedField) : String :=
  match m.field.markers with
  | marker :: _ => marker.tag.spelling
  | [] => m.role.name

/-- A member of a group that an attribute renames, although its marker gives the key. -/
def renameClash? (m : ClassifiedField) : Option Diagnostic :=
  (m.field.attributes.findSome? renameEntry?).map fun e =>
    ⟨.conflictingRename m.field.name.spelling m.tag (e.stringValue?.getD m.key), e.span⟩

/-! ### Keys -/

/-- Two members of a group with one key. -/
def keyClash? (p : Partition) (r : Role) : Option Diagnostic :=
  (firstRepeat ClassifiedField.key [] (p.fields r)).map fun (a, b) =>
    ⟨.duplicateKey r b.key a.field.name.spelling b.field.name.spelling, b.field.name.span⟩

/-- The first problem of a partition of a declaration. -/
def Partition.violation? (p : Partition) (d : Declaration) (c : Config) : Option Diagnostic :=
  d.fields.findSome? (storageClash? c) <|>
  constructorClash? c <|>
  p.annotated.findSome? (fun m => methodClash? c m <|> renameClash? m) <|>
  Role.all.findSome? (keyClash? p)

end RequestGroups
