import RequestGroups.Json.Basic
import RequestGroups.Number.Shortest
import RequestGroups.Text.Hex

/-! # Text of JSON values

Values are written without blanks. In strings only quotes, backslashes and control characters below
the blank are escaped. -/

namespace RequestGroups

open Text Number

/-- Numbers in floating point are written without a power of ten from 0.00001 on, as long as their
whole part has at most sixteen digits. -/
def JsonValue.layout : Layout := ⟨-5, 15⟩

/-- The text of a number of a format, in the shortest form that is read back. -/
def JsonValue.numberText (f : Format) (x : Binary) : String := layout.text (f.shortest x)

namespace JsonString

/-- A character as it is written between quotes. -/
def writeChar (c : Char) : List Char :=
  if c = '"' then ['\\', '"']
  else if c = '\\' then ['\\', '\\']
  else if c = '\x08' then ['\\', 'b']
  else if c = '\t' then ['\\', 't']
  else if c = '\n' then ['\\', 'n']
  else if c = '\x0c' then ['\\', 'f']
  else if c = '\r' then ['\\', 'r']
  else if c < ' ' then
    ['\\', 'u', '0', '0', Hex.ofDigit (c.toNat / 16), Hex.ofDigit (c.toNat % 16)]
  else [c]

/-- A string between quotes. -/
def write (text : String) : String := .ofList ('"' :: text.toList.flatMap writeChar ++ ['"'])

end JsonString

mutual

/-- The text of a value. -/
def JsonValue.text : JsonValue → String
  | .null => "null"
  | .bool b => if b then "true" else "false"
  | .int n => toString n
  | .double x => JsonValue.numberText .double x
  | .string s => JsonString.write s
  | .array items => "[" ++ ",".intercalate (itemTexts items) ++ "]"
  | .object entries => "\x7b" ++ ",".intercalate (entryTexts entries) ++ "\x7d"

/-- The texts of the items of an array. -/
def itemTexts : List JsonValue → List String
  | [] => []
  | v :: rest => v.text :: itemTexts rest

/-- The texts of the entries of an object. -/
def entryTexts : List (String × JsonValue) → List String
  | [] => []
  | (k, v) :: rest => (JsonString.write k ++ ":" ++ v.text) :: entryTexts rest

end

end RequestGroups
