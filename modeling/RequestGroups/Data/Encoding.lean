import RequestGroups.Data.Basic
import RequestGroups.Json.Text

/-! # Encoding of data as JSON

* `Data.encode` is the JSON value of a datum, or the first problem in the order of its parts. The
  objects in it have their entries in order;
* `Data.key` is the text of a datum as a key of a map. -/

namespace RequestGroups

open Text Number

/-- Why a datum has no JSON value. -/
inductive EncodingProblem where
  /-- A datum that cannot be a key is one. -/
  | keyIsNoText
  | keyIsNotFinite
  | numberOutOfRange
  /-- The datum refuses to be presented. -/
  | refused (message : String)
  deriving DecidableEq, Repr, Inhabited

/-- What is said of a problem. -/
def EncodingProblem.message : EncodingProblem → String
  | keyIsNoText => "key must be a string"
  | keyIsNotFinite => "float key must be finite (got NaN or +/-inf)"
  | numberOutOfRange => "number out of range"
  | refused message => message

/-! ### Keys -/

/-- The text of a truth value. -/
def boolText (b : Bool) : String := if b then "true" else "false"

/-- A number of a format as a key, in the shortest form of this format. -/
def floatingKey (f : Format) : Floating → Except EncodingProblem String
  | .finite x => .ok (JsonValue.numberText f x)
  | .infinite _ => .error .keyIsNotFinite
  | .nan => .error .keyIsNotFinite

/-- The text of a JSON value as a key. -/
def JsonValue.key : JsonValue → Except EncodingProblem String
  | .bool b => .ok (boolText b)
  | .int n => .ok (toString n)
  | .double x => .ok (numberText .double x)
  | .string s => .ok s
  | _ => .error .keyIsNoText

/-- The text of a datum as a key. Scalars can be keys, and so can variants without fields. -/
def Data.key : Data → Except EncodingProblem String
  | .bool b => .ok (boolText b)
  | .int n => .ok (toString n)
  | .single x => floatingKey .single x
  | .double x => floatingKey .double x
  | .char c => .ok (String.singleton c)
  | .string s => .ok s
  | .wrapper v => v.key
  | .unitVariant name => .ok name
  | .failure message => .error (.refused message)
  | .json v => v.key
  | _ => .error .keyIsNoText

/-! ### Values -/

/-- The value of a whole number. -/
def encodeInt (n : Int) : Except EncodingProblem JsonValue :=
  if JsonValue.fits n then .ok (.int n) else .error .numberOutOfRange

/-- An object with one entry, which says the variant of a value. -/
def variantObject (name : String) (value : JsonValue) : JsonValue := .object [(name, value)]

mutual

/-- The JSON value of a datum. -/
def Data.encode : Data → Except EncodingProblem JsonValue
  | .unit => .ok .null
  | .none => .ok .null
  | .some v => v.encode
  | .bool b => .ok (.bool b)
  | .int n => encodeInt n
  | .single x => .ok (.ofFloating (x.convert .double))
  | .double x => .ok (.ofFloating x)
  | .char c => .ok (.string (String.singleton c))
  | .string s => .ok (.string s)
  | .bytes bs => .ok (.array (bs.map fun b => .int b.toNat))
  | .sequence items => (encodeItems items).map .array
  | .map entries => (encodeEntries entries).map .ofEntries
  | .record fields => (encodeFields fields).map .ofEntries
  | .tuple items => (encodeItems items).map .array
  | .empty => .ok .null
  | .wrapper v => v.encode
  | .unitVariant name => .ok (.string name)
  | .wrapperVariant name v => v.encode.map (variantObject name)
  | .tupleVariant name items => (encodeItems items).map fun vs => variantObject name (.array vs)
  | .recordVariant name fields =>
    (encodeFields fields).map fun es => variantObject name (.ofEntries es)
  | .failure message => .error (.refused message)
  | .json v => .ok v.canonical

/-- The values of some data. -/
def encodeItems : List Data → Except EncodingProblem (List JsonValue)
  | [] => .ok []
  | v :: rest => do
    let value ← v.encode
    return value :: (← encodeItems rest)

/-- The values of some fields with their names. -/
def encodeFields : List (String × Data) → Except EncodingProblem (List (String × JsonValue))
  | [] => .ok []
  | (name, v) :: rest => do
    let value ← v.encode
    return (name, value) :: (← encodeFields rest)

/-- The values of the entries of a map with their keys. -/
def encodeEntries : List (Data × Data) → Except EncodingProblem (List (String × JsonValue))
  | [] => .ok []
  | (k, v) :: rest => do
    let key ← k.key
    let value ← v.encode
    return (key, value) :: (← encodeEntries rest)

end

end RequestGroups
