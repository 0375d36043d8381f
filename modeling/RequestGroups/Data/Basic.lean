import RequestGroups.Json.Basic

/-! # Data

A datum is a value in the shape in which its type presents it to an encoder. Presenting may fail: a
failure is a datum too, so that it has its place among other values. -/

namespace RequestGroups

open Number

/-- A value as it is presented to an encoder. -/
inductive Data where
  | unit
  | none
  | some (value : Data)
  | bool (value : Bool)
  /-- A whole number of any width. -/
  | int (value : Int)
  /-- A number of 32 bits. -/
  | single (value : Floating)
  /-- A number of 64 bits. -/
  | double (value : Floating)
  | char (value : Char)
  | string (text : String)
  | bytes (bytes : List UInt8)
  | sequence (items : List Data)
  | map (entries : List (Data × Data))
  /-- A struct with named fields. -/
  | record (fields : List (String × Data))
  /-- A struct with nameless fields. -/
  | tuple (items : List Data)
  /-- A struct without fields. -/
  | empty
  /-- A struct with one nameless field. -/
  | wrapper (value : Data)
  /-- One of the variants of a type, without fields. -/
  | unitVariant (name : String)
  /-- A variant with one nameless field. -/
  | wrapperVariant (name : String) (value : Data)
  /-- A variant with nameless fields. -/
  | tupleVariant (name : String) (items : List Data)
  /-- A variant with named fields. -/
  | recordVariant (name : String) (fields : List (String × Data))
  /-- A value that refuses to be presented. -/
  | failure (message : String)
  /-- A value that is JSON already. -/
  | json (value : JsonValue)
  deriving Inhabited

end RequestGroups
