import RequestGroups.Config.Basic
import RequestGroups.Dictionary.Basic

/-! # Dictionaries of groups

* `headersOrProblem` is the dictionary of the headers, with a policy for values that are no strings;
* `bodyOrProblem` is the dictionary of the body, which is its JSON object;
* `headersOrEmpty` and `bodyOrEmpty` are empty where there is a problem, and log a warning. -/

namespace RequestGroups

open Text

/-- The JSON object of a group. -/
def objectOf (group : Role) (d : Data) : Except DictionaryProblem (KeyMap JsonValue) :=
  match d.encode with
  | .error problem => .error (.encoding problem)
  | .ok (.object entries) => .ok entries
  | .ok v => .error (.notAnObject group (.of v))

/-! ### Headers -/

/-- What happens to the value of a header. -/
inductive Treatment where
  /-- The value is text already. -/
  | keep (text : String)
  /-- The value becomes text. -/
  | stringify (text : String)
  /-- The header is left out. -/
  | drop
  /-- The value is refused. -/
  | refuse (found : JsonKind)
  deriving DecidableEq, Repr

/-- What a policy does with a value. -/
def HeaderPolicy.treat : HeaderPolicy → JsonValue → Treatment
  | _, .string s => .keep s
  | stringify, .null => .drop
  | stringify, .bool b => .stringify (JsonValue.bool b).text
  | stringify, .int n => .stringify (JsonValue.int n).text
  | stringify, .double x => .stringify (JsonValue.double x).text
  | _, v => .refuse (.of v)

namespace Treatment

/-- What a header adds to the dictionary. -/
def entries (key : String) : Treatment → List (String × String)
  | keep text => [(key, text)]
  | stringify text => [(key, text)]
  | drop => []
  | refuse _ => []

/-- What is logged for a header. -/
def records (key : String) : Treatment → List LogRecord
  | keep _ => []
  | stringify text => [.stringified key text]
  | drop => [.dropped key]
  | refuse _ => []

end Treatment

/-- The dictionary of some headers. It ends at the first value that is refused. -/
def headersOf (policy : HeaderPolicy) :
    KeyMap JsonValue → Logged (Except DictionaryProblem (KeyMap String))
  | [] => ⟨.ok [], []⟩
  | (key, v) :: rest =>
    match policy.treat v with
    | .refuse found => ⟨.error (.headerIsNoText key found), []⟩
    | t =>
      let later := headersOf policy rest
      ⟨later.result.map (t.entries key ++ ·), t.records key ++ later.log⟩

/-- The dictionary of the headers. -/
def headersOrProblem (policy : HeaderPolicy) (d : Data) :
    Logged (Except DictionaryProblem (KeyMap String)) :=
  match objectOf .header d with
  | .error problem => ⟨.error problem, []⟩
  | .ok entries => headersOf policy entries

/-! ### Body -/

/-- The dictionary of the body. -/
def bodyOrProblem (d : Data) : Logged (Except DictionaryProblem (KeyMap JsonValue)) :=
  ⟨objectOf .body d, []⟩

/-! ### Empty dictionaries for problems -/

/-- An empty dictionary in place of a problem, which is logged. -/
def orEmpty (group : Role) (r : Logged (Except DictionaryProblem (KeyMap α))) :
    Logged (KeyMap α) :=
  match r.result with
  | .ok entries => ⟨entries, r.log⟩
  | .error problem => ⟨[], r.log ++ [.degraded group problem]⟩

/-- The dictionary of the headers, empty if there is a problem. -/
def headersOrEmpty (policy : HeaderPolicy) (d : Data) : Logged (KeyMap String) :=
  orEmpty .header (headersOrProblem policy d)

/-- The dictionary of the body, empty if there is a problem. -/
def bodyOrEmpty (d : Data) : Logged (KeyMap JsonValue) := orEmpty .body (bodyOrProblem d)

end RequestGroups
