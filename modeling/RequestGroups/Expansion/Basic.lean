import RequestGroups.Expansion.Validation

/-! # Expansions

An expansion is everything that is generated for a declaration: a record for each group, an accessor
for each member of a group, a conversion for each group and a constructor.

* `Declaration.expand` gives the expansion, or the first problem of the declaration;
* `Expansion.parts` lists what is generated in its order;
* `GroupRecord.keyOf?` and `Expansion.accessor?` look members up by their names as they are
  written. -/

namespace RequestGroups

open Source Grammar

/-! ### Parts -/

/-- A field of the record of a group. -/
structure GroupField where
  name : Ident
  type : Phrase
  key : String
  /-- The attributes of the source field that are no documentation. -/
  attributes : List Attribute
  deriving Repr, Inhabited

/-- The record of a group. -/
structure GroupRecord where
  name : Ident
  role : Role
  fields : List GroupField
  deriving Repr, Inhabited

namespace GroupRecord

/-- The names of the fields with their keys. -/
def keys (g : GroupRecord) : List (String × String) :=
  g.fields.map fun f => (f.name.spelling, f.key)

/-- The key of the field with a name. -/
def keyOf? (g : GroupRecord) (name : String) : Option String :=
  (g.fields.find? (·.name.spells name)).map (·.key)

/-- Whether a field has a name. -/
def contains (g : GroupRecord) (name : String) : Bool := (g.keyOf? name).isSome

/-- The field of a record that a member of a group becomes. -/
def fieldOf (m : ClassifiedField) : GroupField :=
  ⟨m.field.name, m.field.type, m.key, m.field.otherAttributes⟩

/-- The record of a group. -/
def ofFields (name : Ident) (role : Role) (members : List ClassifiedField) : GroupRecord :=
  ⟨name, role, members.map fieldOf⟩

end GroupRecord

/-- A method that reads a member of a group. -/
structure Accessor where
  name : Ident
  type : Phrase
  visibility : Phrase
  /-- The group that is read. -/
  owner : Role
  docs : List Attribute
  deriving Repr, Inhabited

/-- The accessor of a member of a group. -/
def Accessor.ofField (m : ClassifiedField) : Accessor :=
  ⟨m.field.name, m.field.type, m.field.visibility, m.role, m.field.docs⟩

/-- The kind of values in a dictionary. -/
inductive ValueKind where
  | string
  | json
  deriving DecidableEq, Repr, Inhabited

/-- The words for a kind of values. -/
def ValueKind.name : ValueKind → String
  | string => "string"
  | json => "json value"

/-- A method that gives the dictionary of a group. -/
structure Conversion where
  role : Role
  name : Ident
  valueKind : ValueKind
  deriving Repr, Inhabited

/-- The conversion of a group. Headers are strings; the values of a body are not restricted. -/
def Conversion.ofRole (r : Role) : Conversion where
  role := r
  name := .plain (conversionName r)
  valueKind := match r with
    | .header => .string
    | .body => .json

/-- A parameter of the constructor. -/
structure Parameter where
  name : Ident
  type : Phrase
  deriving Repr, Inhabited

/-- A function that takes every member of a group and sets plain fields to their defaults. -/
structure Constructor where
  name : Ident
  visibility : Phrase
  headerParameters : List Parameter
  bodyParameters : List Parameter
  /-- The plain fields. -/
  defaulted : List Ident
  deriving Repr, Inhabited

namespace Constructor

/-- The parameters in their order, headers first. -/
def parameters (c : Constructor) : List Parameter := c.headerParameters ++ c.bodyParameters

/-- The number of parameters. -/
def arity (c : Constructor) : Nat := c.headerParameters.length + c.bodyParameters.length

/-- The parameters for the members of a group. -/
def parametersOf (members : List ClassifiedField) : List Parameter :=
  members.map fun m => ⟨m.field.name, m.field.type⟩

/-- The constructor for a partition. -/
def ofPartition (name : Ident) (visibility : Phrase) (p : Partition) : Constructor :=
  ⟨name, visibility, parametersOf p.headers, parametersOf p.body, p.plain.map (·.name)⟩

end Constructor

/-! ### Whole expansions -/

/-- The fields that hold the groups. -/
structure Storage where
  headers : Ident
  body : Ident
  deriving Repr, Inhabited

/-- The field that holds a group. -/
def Storage.fieldOf (s : Storage) : Role → Ident
  | .header => s.headers
  | .body => s.body

/-- Everything that is generated for a declaration. -/
structure Expansion where
  declaration : Declaration
  storage : Storage
  plainFields : List Field
  headerRecord : GroupRecord
  bodyRecord : GroupRecord
  accessors : List Accessor
  headersConversion : Conversion
  bodyConversion : Conversion
  constructor : Constructor
  deriving Repr, Inhabited

/-- Something that is generated apart from the struct itself. -/
inductive Generated where
  | headerRecord (record : GroupRecord)
  | bodyRecord (record : GroupRecord)
  | accessor (a : Accessor)
  | headersConversion (c : Conversion)
  | bodyConversion (c : Conversion)
  | constructor (c : Constructor)

namespace Expansion

/-- The record of a group. -/
def record (e : Expansion) : Role → GroupRecord
  | .header => e.headerRecord
  | .body => e.bodyRecord

/-- The accessor with a name. -/
def accessor? (e : Expansion) (name : String) : Option Accessor :=
  e.accessors.find? (·.name.spells name)

/-- What is generated, in order. -/
def parts (e : Expansion) : List Generated :=
  [.headerRecord e.headerRecord, .bodyRecord e.bodyRecord] ++ e.accessors.map .accessor ++
    [.headersConversion e.headersConversion, .bodyConversion e.bodyConversion,
      .constructor e.constructor]

end Expansion

/-- The accessors for a partition, in the order of the declaration. -/
def Declaration.accessors (d : Declaration) (p : Partition) : List Accessor :=
  d.fields.filterMap fun f =>
    (p.annotated.find? fun m => m.field.name.same f.name).map Accessor.ofField

/-- The expansion for a partition. -/
def Declaration.expansionOf (d : Declaration) (p : Partition) (c : Config) : Expansion where
  declaration := d
  storage := ⟨c.headersStorage, c.bodyStorage⟩
  plainFields := p.plain
  headerRecord := .ofFields (c.groupName d.name .header) .header p.headers
  bodyRecord := .ofFields (c.groupName d.name .body) .body p.body
  accessors := d.accessors p
  headersConversion := .ofRole .header
  bodyConversion := .ofRole .body
  constructor := .ofPartition c.constructor d.visibility p

/-- Stops at a problem. -/
def refuse : Option Diagnostic → Except Diagnostic Unit
  | some problem => .error problem
  | none => .ok ()

/-- The expansion of a declaration. -/
def Declaration.expand (d : Declaration) (c : Config) : Except Diagnostic Expansion := do
  refuse d.violation?
  let p ← d.partition c.markers
  refuse (p.violation? d c)
  return d.expansionOf p c

end RequestGroups
