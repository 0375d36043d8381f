import RequestGroups.Declaration.Basic

/-! # Diagnostics

Why a declaration cannot be expanded, and which name is to blame. The wording is in
`Problem.message` alone. -/

namespace RequestGroups

open Source

/-- What a generated name is for. -/
inductive Purpose where
  | storageField
  | constructor
  | conversionMethod
  deriving DecidableEq, Repr

/-- The words for a purpose. -/
def Purpose.name : Purpose → String
  | storageField => "storage field"
  | constructor => "constructor"
  | conversionMethod => "conversion method"

/-- Why a declaration cannot be expanded. -/
inductive Problem where
  /-- The item is no struct with named fields. -/
  | unsupportedKind (found : DeclarationKind)
  /-- A field has two markers. -/
  | conflictingRole (field first second : String)
  /-- Two fields have one name. -/
  | duplicateField (field : String)
  /-- Two fields of one group have one key. -/
  | duplicateKey (role : Role) (key first second : String)
  /-- A field has the name of something that is generated. -/
  | reservedField (field : String) (purpose : Purpose)
  /-- The constructor has the name of something that is generated. -/
  | reservedConstructor (name : String) (purpose : Purpose)
  /-- A field is renamed by an attribute although its marker gives the key. -/
  | conflictingRename (field tag key : String)
  deriving DecidableEq, Repr

namespace Problem

/-- The words for a problem. -/
def message : Problem → String
  | unsupportedKind _ => "#[request_model] can only be applied to a struct with named fields"
  | conflictingRole field first second =>
    s!"field `{field}` cannot carry two roles, found both #[{first}] and #[{second}]"
  | duplicateField field => s!"field `{field}` is declared more than once"
  | duplicateKey role key first second =>
    "serialization key \"" ++ key ++
      s!"\" is used by both `{first}` and `{second}` in the {role.name} group"
  | reservedField field purpose =>
    s!"field `{field}` collides with the generated {purpose.name} of the same name"
  | reservedConstructor name purpose =>
    s!"constructor `{name}` collides with the generated {purpose.name} of the same name"
  | conflictingRename field tag key =>
    s!"field `{field}` sets #[serde(rename)], give the key in its marker instead, e.g. #[{tag}" ++
      "(\"" ++ key ++ "\")]"

/-- The identifier of a problem, which does not depend on names. -/
def id : Problem → String
  | unsupportedKind _ => "struct-support-only"
  | conflictingRole .. => "conflicting-field-role"
  | duplicateField _ => "duplicate-field-name"
  | duplicateKey .. => "duplicate-serialization-key"
  | reservedField .. => "reserved-field-name"
  | reservedConstructor .. => "reserved-constructor-name"
  | conflictingRename .. => "conflicting-rename"

/-- The identifier of a problem in the domain of all identifiers. -/
def qualifiedId (p : Problem) : String := "request_model::" ++ p.id

/-- How severe a problem is. -/
def severity (_ : Problem) : String := "error"

/-- The shape that was found, if the shape is the problem. -/
def found? : Problem → Option DeclarationKind
  | unsupportedKind found => some found
  | _ => none

end Problem

/-- A problem and the place it concerns. -/
structure Diagnostic where
  problem : Problem
  span : Span
  deriving DecidableEq, Repr

end RequestGroups
