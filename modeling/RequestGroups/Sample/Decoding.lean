import RequestGroups.Sample.Value

/-! # Reading values from JSON

* `ValueType.decode` reads a value of a type;
* `decodeRecord` reads a struct from an object or from an array. In an object the entries are read
  in the order of their keys, entries of other keys are left alone, and only then missing fields
  are found. -/

namespace RequestGroups.Sample

/-- Why a JSON value is not read. -/
inductive DecodingProblem where
  | wrongType (found : JsonValue) (expected : String)
  | outOfRange (found : Int) (expected : String)
  | wrongLength (length : Nat) (expected : String)
  | missingField (key : String)
  deriving Repr, Inhabited

/-- What a JSON value is, in words. -/
def describe : JsonValue → String
  | .null => "null"
  | .bool b => "boolean `" ++ (JsonValue.bool b).text ++ "`"
  | .int n => "integer `" ++ (JsonValue.int n).text ++ "`"
  | .double x => "floating point `" ++ (JsonValue.double x).text ++ "`"
  | .string s => "string " ++ Text.Quoted.display s
  | .array _ => "sequence"
  | .object _ => "map"

/-- What is said of a problem. -/
def DecodingProblem.message : DecodingProblem → String
  | wrongType v expected => "invalid type: " ++ describe v ++ ", expected " ++ expected
  | outOfRange n expected =>
    "invalid value: " ++ describe (.int n) ++ ", expected " ++ expected
  | wrongLength n expected => "invalid length " ++ toString n ++ ", expected " ++ expected
  | missingField key => "missing field `" ++ key ++ "`"

/-! ### Values -/

/-- What is expected for a type. -/
def ScalarType.expected : ScalarType → String
  | string => "a string"
  | bool => "a boolean"
  | int w => w.name

/-- Reads a simple value. -/
def ScalarType.decode : ScalarType → JsonValue → Except DecodingProblem Scalar
  | string, .string s => .ok (.string s)
  | bool, .bool b => .ok (.bool b)
  | int w, .int n => if w.admits n then .ok (.int n) else .error (.outOfRange n w.name)
  | t, v => .error (.wrongType v t.expected)

/-- Reads a list of simple values. -/
def ScalarType.decodeList (t : ScalarType) : JsonValue → Except DecodingProblem (List Scalar)
  | .array items => items.mapM t.decode
  | v => .error (.wrongType v "a sequence")

/-- Reads a list of bytes with a byte. -/
def decodeChunk : JsonValue → Except DecodingProblem (List Scalar × Scalar)
  | .array [k, v] => do return (← ScalarType.byte.decodeList k, ← ScalarType.byte.decode v)
  | .array items => .error (.wrongLength items.length "a tuple of size 2")
  | v => .error (.wrongType v "a tuple of size 2")

/-- Reads a value of a type. -/
def ValueType.decode : ValueType → JsonValue → Except DecodingProblem Value
  | scalar t, v => (t.decode v).map .scalar
  | optional _, .null => .ok (.optional none)
  | optional t, v => (t.decode v).map fun x => .optional (some x)
  | list t, v => (t.decodeList v).map .list
  | json, v => .ok (.json v)
  | chunks, .array items => do
    return .chunks ((← items.mapM decodeChunk).foldl insertChunk [])
  | chunks, v => .error (.wrongType v "a sequence")

/-! ### Structs -/

/-- A field that is read. -/
structure Expected (β : Type u) where
  key : String
  decode : JsonValue → Except DecodingProblem β
  /-- What the field is if it is missing. -/
  initial : Option β

/-- Reads the entries of an object that belong to fields. -/
def decodeEntries (fields : List (Expected β)) :
    List (String × JsonValue) → Except DecodingProblem (List (String × β))
  | [] => .ok []
  | (key, v) :: rest =>
    match fields.find? (·.key == key) with
    | some f => do
      let value ← f.decode v
      return (key, value) :: (← decodeEntries fields rest)
    | none => decodeEntries fields rest

/-- The value of a field among those that were read. -/
def Expected.take (found : List (String × β)) (f : Expected β) : Except DecodingProblem β :=
  match found.lookup f.key, f.initial with
  | some value, _ => .ok value
  | none, some value => .ok value
  | none, none => .error (.missingField f.key)

/-- Reads fields from the items of an array, of which `position` are read already. -/
def decodeItems (expected : String) (position : Nat) :
    List (Expected β) → List JsonValue → Except DecodingProblem (List β)
  | [], _ => .ok []
  | f :: fields, [] =>
    match f.initial with
    | some value => do return value :: (← decodeItems expected (position + 1) fields [])
    | none => .error (.wrongLength position expected)
  | f :: fields, v :: items => do
    let value ← f.decode v
    return value :: (← decodeItems expected (position + 1) fields items)

/-- A number of elements in words. -/
def elementCount (n : Nat) : String := toString n ++ if n = 1 then " element" else " elements"

/-- Reads the fields of a struct in their order. -/
def decodeRecord (name : String) (fields : List (Expected β)) :
    JsonValue → Except DecodingProblem (List β)
  | .object entries => do
    let found ← decodeEntries fields entries
    fields.mapM (·.take found)
  | .array items => do
    let values ← decodeItems
      ("struct " ++ name ++ " with " ++ elementCount fields.length) 0 fields items
    if fields.length < items.length then
      throw (.wrongLength items.length "fewer elements in array")
    return values
  | v => .error (.wrongType v ("struct " ++ name))

end RequestGroups.Sample
