import RequestGroups.Number.Binary
import RequestGroups.Text.KeyMap

/-! # JSON values

A number is whole or in floating point, where a whole number fits into 64 bits with or without a
sign. The entries of an object are in the order of their keys.

* `JsonKind.of` is the kind of a value;
* `JsonValue.ofInt` is the value of a whole number of any size;
* `JsonValue.canonical` brings the entries of all objects into order. -/

namespace RequestGroups

open Text Number

/-- A JSON value. -/
inductive JsonValue where
  | null
  | bool (value : Bool)
  | int (value : Int)
  | double (value : Binary)
  | string (text : String)
  | array (items : List JsonValue)
  | object (entries : List (String × JsonValue))
  deriving Repr, Inhabited

/-- The kind of a JSON value. -/
inductive JsonKind where
  | null
  | bool
  | number
  | string
  | array
  | object
  deriving DecidableEq, Repr, Inhabited

namespace JsonKind

/-- The word for a kind. -/
def name : JsonKind → String
  | null => "null"
  | bool => "bool"
  | number => "number"
  | string => "string"
  | array => "array"
  | object => "object"

/-- The kind of a value. -/
def of : JsonValue → JsonKind
  | .null => null
  | .bool _ => bool
  | .int _ => number
  | .double _ => number
  | .string _ => string
  | .array _ => array
  | .object _ => object

end JsonKind

namespace JsonValue

/-- Whether a whole number fits into 64 bits, with or without a sign. -/
def fits (n : Int) : Bool := -Nat.pow 2 63 ≤ n && n < Nat.pow 2 64

/-- The value of a number in floating point. One that is not finite has no number in JSON. -/
def ofFloating : Floating → JsonValue
  | .finite x => double x
  | .infinite _ => null
  | .nan => null

/-- The value of a number in decimal notation. -/
def ofDecimal (x : Decimal) : JsonValue := ofFloating (Format.double.ofDecimal x)

/-- The value of a whole number. One that does not fit is rounded to floating point. -/
def ofInt (n : Int) : JsonValue := if fits n then int n else ofDecimal ⟨n < 0, n.natAbs, 0⟩

/-- The value of an object with some entries; of two entries with one key the later one counts. -/
def ofEntries (entries : List (String × JsonValue)) : JsonValue :=
  object (KeyMap.ofEntries entries)

end JsonValue

/-! ### Order of entries -/

mutual

/-- The value with the entries of all its objects in order, each key once. -/
def JsonValue.canonical : JsonValue → JsonValue
  | .array items => .array (canonicalItems items)
  | .object entries => .ofEntries (canonicalEntries entries)
  | v => v

/-- The items of an array with all objects in order. -/
def canonicalItems : List JsonValue → List JsonValue
  | [] => []
  | v :: rest => v.canonical :: canonicalItems rest

/-- The entries of an object with all objects in their values in order. -/
def canonicalEntries : List (String × JsonValue) → List (String × JsonValue)
  | [] => []
  | (k, v) :: rest => (k, v.canonical) :: canonicalEntries rest

end

/-! ### Equality -/

mutual

/-- Whether two values are equal. Zeros are equal whatever their signs are. -/
def JsonValue.same : JsonValue → JsonValue → Bool
  | .null, .null => true
  | .bool a, .bool b => a == b
  | .int a, .int b => a == b
  | .double a, .double b => a == b || (a.mantissa == 0 && b.mantissa == 0)
  | .string a, .string b => a == b
  | .array a, .array b => sameItems a b
  | .object a, .object b => sameEntries a b
  | _, _ => false

/-- Whether the items of two arrays are equal. -/
def sameItems : List JsonValue → List JsonValue → Bool
  | [], [] => true
  | a :: as, b :: bs => a.same b && sameItems as bs
  | _, _ => false

/-- Whether the entries of two objects are equal. -/
def sameEntries : List (String × JsonValue) → List (String × JsonValue) → Bool
  | [], [] => true
  | (k, a) :: as, (l, b) :: bs => k == l && a.same b && sameEntries as bs
  | _, _ => false

end

instance : BEq JsonValue := ⟨JsonValue.same⟩

end RequestGroups
