import RequestGroups.Declaration.MarkerTable
import RequestGroups.Text.CamelCase

/-! # Configurations

A configuration says which attributes are markers, how the generated parts are named and what is
done with header values that are no strings.

* `Config.groupName` is the name of the record of a group: the configured one, or the name of the
  declaration followed by the name of the storage field in upper camel case, both without the mark
  of raw identifiers;
* `HeaderPolicy` says what is done with header values that are no strings. -/

namespace RequestGroups

open Source Grammar

/-- What is done with header values that are no strings. -/
inductive HeaderPolicy where
  /-- They are an error. -/
  | strict
  /-- Numbers and truth values are written as text, and nulls are left out. -/
  | stringify
  deriving DecidableEq, Repr, Inhabited

namespace HeaderPolicy

/-- The word for a policy. -/
def name : HeaderPolicy → String
  | strict => "strict"
  | stringify => "stringify"

/-- Both policies. -/
def all : List HeaderPolicy := [strict, stringify]

/-- The policy that a word stands for. -/
def ofName? (name : String) : Option HeaderPolicy := all.find? (·.name == name)

theorem ofName?_name (p : HeaderPolicy) : ofName? p.name = some p := by cases p <;> decide

/-- The name of the policy as a value in generated code. -/
def variant : HeaderPolicy → String
  | strict => "Strict"
  | stringify => "Stringify"

/-- What is said of a word that stands for no policy. -/
def unknownMessage : String := "Matching variant not found"

end HeaderPolicy

/-- The settings of an expansion. -/
structure Config where
  markers : MarkerTable := .default
  /-- The name of the record of headers, if it is given. -/
  headersType : Option Ident := none
  /-- The name of the record of body fields, if it is given. -/
  bodyType : Option Ident := none
  constructor : Ident := .plain "new"
  /-- The field that holds the headers. -/
  headersStorage : Ident := .plain "headers"
  /-- The field that holds the body. -/
  bodyStorage : Ident := .plain "body"
  /-- The path of the library that generated code refers to. -/
  runtime : Path := .ofNames true ["request_model"]
  headerValues : HeaderPolicy := .strict

namespace Config

/-- The field that holds a group. -/
def storage (c : Config) : Role → Ident
  | .header => c.headersStorage
  | .body => c.bodyStorage

/-- The name that is given for the record of a group. -/
def givenName? (c : Config) : Role → Option Ident
  | .header => c.headersType
  | .body => c.bodyType

/-- The name of the record of a group. -/
def groupName (c : Config) (declared : Ident) (r : Role) : Ident :=
  (c.givenName? r).getD <|
    .plain (declared.name ++ Text.camelCase (c.storage r).name)

end Config

end RequestGroups
