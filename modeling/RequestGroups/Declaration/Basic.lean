import RequestGroups.Declaration.Derives
import RequestGroups.Declaration.Marker

/-! # Declarations

A declaration is what an annotated item says: its name, its shape and its fields, with the markers
of each field apart from its other attributes. Types are carried along untouched. -/

namespace RequestGroups

open Source Grammar

/-- The shape of an item. -/
inductive DeclarationKind where
  /-- A struct with named fields, the only shape that can be split. -/
  | struct
  | genericStruct
  | tupleStruct
  | unitStruct
  | enum
  | union
  | item
  deriving DecidableEq, Repr, Inhabited

namespace DeclarationKind

/-- The words for a shape. -/
def name : DeclarationKind → String
  | struct => "struct"
  | genericStruct => "generic struct"
  | tupleStruct => "tuple struct"
  | unitStruct => "unit struct"
  | enum => "enum"
  | union => "union"
  | item => "item"

/-- All shapes. -/
def all : List DeclarationKind :=
  [struct, genericStruct, tupleStruct, unitStruct, enum, union, item]

/-- The shape that some words stand for. -/
def ofName? (name : String) : Option DeclarationKind := all.find? (·.name == name)

theorem ofName?_name (k : DeclarationKind) : ofName? k.name = some k := by cases k <;> decide

end DeclarationKind

/-- A named field. -/
structure Field where
  name : Ident
  type : Phrase
  visibility : Phrase
  /-- The markers in the order in which they are written. -/
  markers : List Marker
  /-- All other attributes in the order in which they are written. -/
  attributes : List Attribute
  deriving Repr, Inhabited

namespace Field

/-- The documentation of the field. -/
def docs (f : Field) : List Attribute := f.attributes.filter Attribute.isDoc

/-- The attributes that are no documentation. -/
def otherAttributes (f : Field) : List Attribute := f.attributes.filter fun a => !a.isDoc

/-- The field as it is written, without its markers. -/
def item (f : Field) : FieldItem := ⟨f.attributes, f.visibility, some f.name, f.type⟩

end Field

/-- What an annotated item says. -/
structure Declaration where
  name : Ident
  visibility : Phrase
  kind : DeclarationKind
  attributes : List Attribute
  /-- The paths of all derives. -/
  derives : List Path
  fields : List Field
  deriving Repr, Inhabited

namespace Declaration

/-- The field with a name, which is compared as it is written. -/
def field? (d : Declaration) (name : String) : Option Field := d.fields.find? (·.name.spells name)

end Declaration

end RequestGroups
