import RequestGroups.Data.Basic
import RequestGroups.Grammar.Path
import RequestGroups.Json.Text
import RequestGroups.Text.Quoted

/-! # Values of sample fields

The fields of the sample requests have one of a few types. A type has a spelling and a default, and
its values have a datum, a JSON value and a text for programmers. -/

namespace RequestGroups.Sample

open Grammar

/-! ### Types -/

/-- A type of whole numbers. -/
structure Width where
  name : String
  least : Int
  greatest : Int
  deriving DecidableEq, Repr

namespace Width

/-- Whether a number is in the range of the type. -/
def admits (w : Width) (n : Int) : Bool := w.least ≤ n && n ≤ w.greatest

/-- A type without a sign. -/
def unsigned (bits : Nat) : Width := ⟨"u" ++ toString bits, 0, Nat.pow 2 bits - 1⟩

/-- A type with a sign. -/
def signed (bits : Nat) : Width :=
  ⟨"i" ++ toString bits, -Nat.pow 2 (bits - 1), Nat.pow 2 (bits - 1) - 1⟩

end Width

/-- A type of simple values. -/
inductive ScalarType where
  | string
  | bool
  | int (width : Width)
  deriving DecidableEq, Repr

/-- The type of a field. -/
inductive ValueType where
  | scalar (type : ScalarType)
  | optional (type : ScalarType)
  | list (type : ScalarType)
  /-- Any JSON value. -/
  | json
  /-- A map from lists of bytes to bytes. -/
  | chunks
  deriving DecidableEq, Repr

/-- The type of bytes. -/
def ScalarType.byte : ScalarType := int (.unsigned 8)

/-- The name of a type. -/
def ScalarType.name : ScalarType → String
  | string => "String"
  | bool => "bool"
  | int w => w.name

/-- A type with arguments. -/
def applied (name : String) (arguments : List Phrase) : Phrase :=
  Phrase.word name ++ Phrase.sign "<" ++ List.intercalate (Phrase.sign ",") arguments ++
    Phrase.sign ">"

/-- The type as it is written. -/
def ValueType.phrase : ValueType → Phrase
  | scalar t => Phrase.word t.name
  | optional t => applied "Option" [Phrase.word t.name]
  | list t => applied "Vec" [Phrase.word t.name]
  | json => Phrase.word "Value"
  | chunks => applied "HashMap" [applied "Vec" [Phrase.word "u8"], Phrase.word "u8"]

/-! ### Values -/

/-- A simple value. -/
inductive Scalar where
  | string (text : String)
  | bool (value : Bool)
  | int (value : Int)
  deriving DecidableEq, Repr, Inhabited

/-- The value of a field. -/
inductive Value where
  | scalar (value : Scalar)
  | optional (value : Option Scalar)
  | list (values : List Scalar)
  | json (value : JsonValue)
  | chunks (entries : List (List Scalar × Scalar))
  deriving BEq, Repr, Inhabited

/-- The default of a type. -/
def ScalarType.initial : ScalarType → Scalar
  | string => .string ""
  | bool => .bool false
  | int _ => .int 0

/-- The default of a type. -/
def ValueType.initial : ValueType → Value
  | scalar t => .scalar t.initial
  | optional _ => .optional none
  | list _ => .list []
  | json => .json .null
  | chunks => .chunks []

/-- The entries with another value for a key. -/
def insertChunk (entries : List (List Scalar × Scalar)) (e : List Scalar × Scalar) :
    List (List Scalar × Scalar) :=
  entries.filter (·.1 != e.1) ++ [e]

namespace Scalar

/-- The datum of a value. -/
def data : Scalar → Data
  | string s => .string s
  | bool b => .bool b
  | int n => .int n

/-- The JSON value of a value. -/
def toJson : Scalar → JsonValue
  | string s => .string s
  | bool b => .bool b
  | int n => .int n

/-- The text of a value for programmers. -/
def display : Scalar → String
  | string s => Text.Quoted.display s
  | bool b => if b then "true" else "false"
  | int n => toString n

end Scalar

namespace Value

/-- Whether the value is an optional one that is missing. -/
def isMissing : Value → Bool
  | optional none => true
  | _ => false

/-- The datum of a value. -/
def data : Value → Data
  | scalar v => v.data
  | optional v => v.elim .none fun v => .some v.data
  | list vs => .sequence (vs.map Scalar.data)
  | json v => .json v
  | chunks es => .map (es.map fun (k, v) => (.sequence (k.map Scalar.data), v.data))

/-- The JSON value that a value is shown as. A map whose keys are no texts is shown as the number of
its entries. -/
def toJson : Value → JsonValue
  | scalar v => v.toJson
  | optional v => v.elim .null Scalar.toJson
  | list vs => .array (vs.map Scalar.toJson)
  | json v => v
  | chunks es => .int es.length

/-- Texts in brackets. -/
def bracketed (texts : List String) : String := "[" ++ ", ".intercalate texts ++ "]"

/-- The text of a value for programmers. -/
def display : Value → String
  | scalar v => v.display
  | optional none => "None"
  | optional (some v) => "Some(" ++ v.display ++ ")"
  | list vs => bracketed (vs.map Scalar.display)
  | v => v.toJson.text

end Value

end RequestGroups.Sample
