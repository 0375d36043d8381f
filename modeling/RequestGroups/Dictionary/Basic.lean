import RequestGroups.Data.Encoding
import RequestGroups.Declaration.Role

/-! # Results with a log

A dictionary is what a group of a request becomes: text values for headers, JSON values for a body.
Making one may fail, and it leaves records in a log. -/

namespace RequestGroups

/-- The word for the group of a role. -/
def Role.groupName : Role → String
  | header => "headers"
  | body => "body"

/-- Why a group has no dictionary. -/
inductive DictionaryProblem where
  | encoding (problem : EncodingProblem)
  /-- The group has a JSON value, but no object. -/
  | notAnObject (group : Role) (found : JsonKind)
  /-- A header has a value that does not become text. -/
  | headerIsNoText (key : String) (found : JsonKind)
  deriving DecidableEq, Repr, Inhabited

/-- What is said of a problem. -/
def DictionaryProblem.message : DictionaryProblem → String
  | encoding problem => "Encode Error: " ++ problem.message
  | notAnObject group found =>
    group.groupName ++ " group encoded to " ++ found.name ++ ", expected an object"
  | headerIsNoText key found =>
    "header \"" ++ key ++ "\" encoded to " ++ found.name ++ ", expected a string"

/-! ### Logs -/

/-- How urgent a record is. -/
inductive Level where
  | debug
  | warning
  deriving DecidableEq, Repr, Inhabited

/-- The word for a level. -/
def Level.name : Level → String
  | debug => "debug"
  | warning => "warn"

/-- A line in a log. -/
structure LogRecord where
  level : Level
  message : String
  deriving DecidableEq, Repr, Inhabited

/-- Where all records are filed. -/
def LogRecord.target : String := "request_model::conversion"

namespace LogRecord

/-- A header without a value is left out. -/
def dropped (key : String) : LogRecord := ⟨.debug, "dropping null header \"" ++ key ++ "\""⟩

/-- A header with a scalar value became text. -/
def stringified (key text : String) : LogRecord :=
  ⟨.debug, "stringified header \"" ++ key ++ "\" as \"" ++ text ++ "\""⟩

/-- A group has no dictionary and counts as empty. -/
def degraded (group : Role) (problem : DictionaryProblem) : LogRecord :=
  ⟨.warning, group.groupName ++ " conversion failed, returning an empty mapping: " ++
    problem.message⟩

end LogRecord

/-- A result with the records that were logged on the way to it. -/
structure Logged (α : Type u) where
  result : α
  log : List LogRecord
  deriving Repr, Inhabited

end RequestGroups
