import RequestGroups.Dictionary.RequestModel
import RequestGroups.Expansion.Code

/-! # Instances

An instance is a value of an expanded struct. The generated code is run on instances:

* `Expansion.construct` is what the constructor gives for some arguments;
* `Projection.run` is what an accessor reads;
* `Expansion.groupData` is the datum that the conversion of a group encodes;
* `Expansion.requestModel` has the conversions that may fail, and `Conversion.run` is one that gives
  an empty dictionary instead. -/

namespace RequestGroups

open Source

/-- What is bound to a name. The mark of raw identifiers is no part of a name where code runs. -/
def lookup? (name : Ident) (bindings : List (Ident × β)) : Option β :=
  (bindings.find? (·.1.name == name.name)).map (·.2)

/-- What a field of an expanded struct holds: the members of a group, or a value of its own. -/
inductive Slot (α : Type u) where
  | group (members : List (Ident × α))
  | plain (value : α)
  deriving Repr, BEq, Inhabited

/-- A value of an expanded struct: its fields in their order. -/
abbrev Instance (α : Type u) := List (Ident × Slot α)

/-! ### Constructors -/

/-- The members of the group that a literal builds from the arguments. -/
def GroupLiteral.run (arguments : List (Ident × α)) (l : GroupLiteral) :
    Option (List (Ident × α)) :=
  l.names.mapM fun name => (lookup? name arguments).map (name, ·)

/-- What a field is set to, if its type has the given default. -/
def Initializer.run (arguments : List (Ident × α)) (initial : Option α) :
    Initializer → Option (Slot α)
  | group literal => (literal.run arguments).map .group
  | .default => initial.map .plain

/-- The instance that the code of a constructor builds. -/
def ConstructorCode.run (arguments : List (Ident × α)) (initial : Ident → Option α)
    (c : ConstructorCode) : Option (Instance α) :=
  c.fields.mapM fun (name, i) => (i.run arguments (initial name)).map (name, ·)

/-- The instance that the constructor builds from a value for each of its parameters. -/
def Expansion.construct (e : Expansion) (initial : Ident → Option α) (values : List α) :
    Option (Instance α) :=
  if values.length = e.constructor.arity then
    e.constructorCode.run ((e.constructor.parameters.map (·.name)).zip values) initial
  else none

/-! ### Reading -/

namespace Instance

/-- The members of the group in a field. -/
def members? (i : Instance α) (storage : Ident) : Option (List (Ident × α)) :=
  match lookup? storage i with
  | some (.group members) => some members
  | _ => none

/-- The value of a plain field. -/
def plain? (i : Instance α) (name : Ident) : Option α :=
  match lookup? name i with
  | some (.plain value) => some value
  | _ => none

/-- The instance with another value in a field. -/
def set (i : Instance α) (name : Ident) (value : α) : Instance α :=
  i.map fun (n, slot) => if n.name == name.name then (n, .plain value) else (n, slot)

end Instance

/-- The member of a group that an accessor reads. -/
def Projection.run (p : Projection) (i : Instance α) : Option α :=
  (i.members? p.storage).bind (lookup? p.name)

/-- The members of the group that a call of a conversion passes on. -/
def ConversionCall.argument? (v : ConversionCall) (i : Instance α) : Option (List (Ident × α)) :=
  i.members? v.storage

/-! ### Data of groups -/

/-- The datum of a group: its fields under their keys, in the order of its record. A field may be
left out of it. -/
def GroupRecord.dataOf (g : GroupRecord) (present : GroupField → α → Option Data)
    (members : List (Ident × α)) : Data :=
  .record <| g.fields.filterMap fun f =>
    (lookup? f.name members).bind fun v => (present f v).map (f.key, ·)

/-- The datum that the conversion of a group encodes. -/
def Expansion.groupData (e : Expansion) (present : GroupField → α → Option Data) (i : Instance α)
    (r : Role) : Data :=
  (e.record r).dataOf present ((i.members? (e.storage.fieldOf r)).getD [])

/-! ### Conversions -/

/-- What the called function gives for the record in a group of an instance. A call without a policy
has the default one, which only matters for headers. -/
def ConversionCall.run (v : ConversionCall) (record : GroupRecord)
    (present : GroupField → α → Option Data) (i : Instance α) : Attempt v.role :=
  dictionaryOrProblem (v.policy.getD .strict) v.role
    (record.dataOf present ((v.argument? i).getD []))

/-- The conversions that may fail, as they are implemented for the struct. -/
def Expansion.requestModel (e : Expansion) (c : Config) (present : GroupField → α → Option Data) :
    RequestModel (Instance α) where
  orProblem r := (e.conversionCall c r).run (e.record r) present

/-- What a method of the struct gives that calls the conversion of its name of the trait. The struct
does not implement this conversion, so it is the default. -/
def Conversion.run (v : Conversion) (e : Expansion) (c : Config)
    (present : GroupField → α → Option Data) (i : Instance α) : Logged (Text.KeyMap v.role.Value) :=
  (e.requestModel c present).orEmpty v.role i

end RequestGroups
