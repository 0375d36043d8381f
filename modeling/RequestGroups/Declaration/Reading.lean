import RequestGroups.Declaration.Basic
import RequestGroups.Grammar.Item

/-! # Reading declarations from items

Every item gives a declaration, whatever its shape; only a malformed derive is a fault.

* `Declaration.survey` gives the declaration and the fault, `Declaration.ofItem` either of them;
* `Field.ofItem?` sorts the attributes of a field into markers and others. -/

namespace RequestGroups

open Source Grammar

/-- An attribute as a marker, if the table registers it. -/
def MarkerTable.marker? (t : MarkerTable) (a : Attribute) : Option Marker :=
  if t.isMarker a then Marker.ofAttribute? a else none

/-- A named field, with its attributes sorted into markers and others. -/
def Field.ofItem? (t : MarkerTable) (f : FieldItem) : Option Field :=
  f.name.map fun name => {
    name
    type := f.type
    visibility := f.visibility
    markers := f.attributes.filterMap t.marker?
    attributes := f.attributes.filter fun a => !t.isMarker a }

namespace Declaration

/-- A declaration of which nothing is known but its name and its shape. -/
def bare (name : Ident) (visibility : Phrase) (kind : DeclarationKind) : Declaration :=
  ⟨name, visibility, kind, [], [], []⟩

/-- The shape of a struct. -/
def kindOf (s : StructItem) : DeclarationKind :=
  match s.fields with
  | .named _ => if s.isGeneric then .genericStruct else .struct
  | .tuple _ => .tupleStruct
  | .unit => .unitStruct

/-- The named fields of a struct. -/
def fieldsOf (t : MarkerTable) (s : StructItem) : List Field :=
  match s.fields with
  | .named l => l.fields.filterMap (Field.ofItem? t)
  | _ => []

/-- The declaration of a struct with given derives. -/
def ofStruct (t : MarkerTable) (s : StructItem) (derives : List Path) : Declaration :=
  ⟨s.name, s.visibility, kindOf s, s.attributes, derives, fieldsOf t s⟩

/-- The shape of an item that is no struct. -/
def kindOfOther : ItemKind → DeclarationKind
  | .enum => .enum
  | .union => .union
  | .other => .item

/-- The name of items that have none. -/
def anonymous : Ident := .plain "item"

/-- The declaration of an item, and the fault in its derives if there is one. -/
def survey (t : MarkerTable) : Item → Declaration × Option Fault
  | .struct s =>
    match Derives.ofAttributes s.attributes with
    | .ok derives => (ofStruct t s derives, none)
    | .error fault => (ofStruct t s [], some fault)
  | .other kind name visibility _ =>
    (bare (name.getD anonymous) visibility (kindOfOther kind), none)

/-- The declaration of an item. -/
def ofItem (t : MarkerTable) (i : Item) : Except Fault Declaration :=
  match survey t i with
  | (_, some fault) => .error fault
  | (d, none) => .ok d

/-- What is known after one more item: the declaration of the first item counts. -/
def firstOf (t : MarkerTable) (known : Option Declaration) (i : Item) : Option Declaration :=
  known <|> some (survey t i).1

end Declaration

end RequestGroups
