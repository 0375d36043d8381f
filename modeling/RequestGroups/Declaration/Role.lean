/-! # Roles

An annotated field belongs to one of two groups of a request: its headers or its body. -/

namespace RequestGroups

/-- The group that a field belongs to. -/
inductive Role where
  | header
  | body
  deriving DecidableEq, Repr, Inhabited

namespace Role

/-- The word for a role. -/
def name : Role → String
  | header => "header"
  | body => "body"

/-- Both roles, headers first. -/
def all : List Role := [header, body]

@[simp] theorem mem_all (r : Role) : r ∈ all := by cases r <;> decide

/-- The role that a word stands for. -/
def ofName? (name : String) : Option Role := all.find? (·.name == name)

theorem ofName?_name (r : Role) : ofName? r.name = some r := by cases r <;> decide

end Role

end RequestGroups
