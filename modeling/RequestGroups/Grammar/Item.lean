import RequestGroups.Grammar.Attribute

/-! # Items

An item is a struct, which is kept with its parts, or anything else, of which only the name, the
visibility and the phrase are kept.

* `Item.phrase` writes an item;
* `Item.strip` removes the chosen attributes from all fields of an item, however deep the fields are
  nested, and nothing else. -/

namespace RequestGroups.Grammar

open RequestGroups.Source

/-- A field of a struct, a union or an enum variant; the fields of a tuple have no name. -/
structure FieldItem where
  attributes : List Attribute
  visibility : Phrase
  name : Option Ident
  type : Phrase
  deriving Repr, Inhabited

namespace FieldItem

/-- The field as a phrase. -/
def phrase (f : FieldItem) : Phrase :=
  f.attributes.flatMap Attribute.fieldPhrase ++ f.visibility ++
    (f.name.elim [] fun n => Phrase.ident n ++ Phrase.sign ":") ++ f.type

/-- Removes the chosen attributes from the field and the fields inside of it. -/
def strip (chosen : String → Bool) (f : FieldItem) : FieldItem where
  attributes := (f.attributes.filter fun a => !(a.tag?.map Ident.spelling).any chosen).map
    (·.strip chosen)
  visibility := f.visibility.strip chosen
  name := f.name
  type := f.type.strip chosen

end FieldItem

/-- Fields with commas between them; `trailing` says that a comma follows the last one. -/
structure FieldList where
  fields : List FieldItem
  trailing : Bool
  deriving Repr, Inhabited

namespace FieldList

/-- The fields as a phrase. -/
def phrase (l : FieldList) : Phrase :=
  List.intercalate (Phrase.sign ",") (l.fields.map FieldItem.phrase) ++
    (if l.trailing then Phrase.sign "," else [])

/-- Removes the chosen attributes from all fields. -/
def strip (chosen : String → Bool) (l : FieldList) : FieldList :=
  { l with fields := l.fields.map (·.strip chosen) }

end FieldList

/-- The fields of a struct or a variant. -/
inductive Fields where
  | named (fields : FieldList)
  | tuple (fields : FieldList)
  | unit
  deriving Repr, Inhabited

namespace Fields

/-- The fields as a phrase, delimiters included. -/
def phrase : Fields → Phrase
  | named l => Phrase.group .brace l.phrase
  | tuple l => Phrase.group .paren l.phrase
  | unit => []

/-- Removes the chosen attributes from all fields. -/
def strip (chosen : String → Bool) : Fields → Fields
  | named l => named (l.strip chosen)
  | tuple l => tuple (l.strip chosen)
  | unit => unit

end Fields

/-- A struct. -/
structure StructItem where
  attributes : List Attribute
  visibility : Phrase
  name : Ident
  /-- The generic parameters in angle brackets, if there are any. -/
  parameters : Phrase
  /-- The predicates after `where`; the empty phrase if `where` has no predicates. -/
  clause : Option Phrase
  fields : Fields
  deriving Repr, Inhabited

namespace StructItem

/-- The struct as a phrase. -/
def phrase (s : StructItem) : Phrase :=
  let clause := s.clause.getD []
  Attribute.phraseOf s.attributes ++ s.visibility ++ Phrase.word "struct" ++
    Phrase.ident s.name ++ s.parameters ++
    match s.fields with
    | .named _ => clause ++ s.fields.phrase
    | .tuple _ => s.fields.phrase ++ clause ++ Phrase.sign ";"
    | .unit => clause ++ Phrase.sign ";"

/-- Removes the chosen attributes from all fields. -/
def strip (chosen : String → Bool) (s : StructItem) : StructItem where
  attributes := s.attributes.map (·.strip chosen)
  visibility := s.visibility.strip chosen
  name := s.name
  parameters := s.parameters.strip chosen
  clause := s.clause.map (·.strip chosen)
  fields := s.fields.strip chosen

/-- Whether the struct has parameters or a `where` clause. -/
def isGeneric (s : StructItem) : Bool := !s.parameters.isEmpty || s.clause.isSome

end StructItem

/-- The kinds of items that are no structs. -/
inductive ItemKind where
  | enum
  | union
  | other
  deriving Repr, DecidableEq, Inhabited

/-- An item. -/
inductive Item where
  | struct (s : StructItem)
  /-- An item of another kind, with its name if it has one. -/
  | other (kind : ItemKind) (name : Option Ident) (visibility : Phrase) (phrase : Phrase)
  deriving Repr, Inhabited

namespace Item

/-- The item as a phrase. -/
def phrase : Item → Phrase
  | struct s => s.phrase
  | other _ _ _ p => p

/-- The item as token trees. -/
def trees (i : Item) : List TokenTree := i.phrase.trees

/-- Removes the chosen attributes from all fields. -/
def strip (chosen : String → Bool) : Item → Item
  | struct s => struct (s.strip chosen)
  | other k n v p => other k n (v.strip chosen) (p.strip chosen)

end Item

end RequestGroups.Grammar
