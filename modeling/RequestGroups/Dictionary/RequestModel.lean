import RequestGroups.Dictionary.Conversion

/-! # Request models

A request model is a type whose values have a dictionary for each group. Its conversions that may
fail are given, and those that give an empty dictionary instead are made of them.

* `dictionaryOrProblem` and `dictionaryOrEmpty` are the conversions of both groups;
* `RequestModel.orEmpty` is what a request model has by default. -/

namespace RequestGroups

open Text

/-- What the values in the dictionary of a group are: headers are strings. -/
abbrev Role.Value : Role → Type
  | header => String
  | body => JsonValue

/-- The outcome of a conversion that may fail. -/
abbrev Attempt (r : Role) := Logged (Except DictionaryProblem (KeyMap r.Value))

/-- The dictionary of a group. The policy is about headers only. -/
def dictionaryOrProblem (policy : HeaderPolicy) : (r : Role) → Data → Attempt r
  | .header => headersOrProblem policy
  | .body => bodyOrProblem

/-- The dictionary of a group, empty if there is a problem. -/
def dictionaryOrEmpty (policy : HeaderPolicy) : (r : Role) → Data → Logged (KeyMap r.Value)
  | .header => headersOrEmpty policy
  | .body => bodyOrEmpty

/-- A type with conversions of both groups. -/
structure RequestModel (σ : Type u) where
  orProblem : (r : Role) → σ → Attempt r

/-- The dictionary of a group that a request model gives by default, empty if there is a problem. -/
def RequestModel.orEmpty (m : RequestModel σ) (r : Role) (x : σ) : Logged (KeyMap r.Value) :=
  RequestGroups.orEmpty r (m.orProblem r x)

end RequestGroups
