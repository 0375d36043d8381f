import RequestGroups.Grammar.Recursion

/-! # Derives

* `Derives.ofAttributes` lists the paths of all `#[derive(...)]` attributes, in order;
* `Derives.forwarded` keeps the ones that are repeated on the group records: those that hold of any
  record whose fields can be derived. -/

namespace RequestGroups.Derives

open Source Grammar

/-- The names of the derives that are repeated on the group records. -/
def forwardedNames : List String :=
  ["Debug", "Clone", "Copy", "PartialEq", "Eq", "Hash", "PartialOrd", "Ord", "Default",
    "Deserialize"]

/-- Whether a derive is repeated, which its last name decides. -/
def isForwarded (p : Path) : Bool :=
  p.segments.getLast?.any fun s => forwardedNames.any s.ident.spells

/-- The derives that are repeated, in order. -/
def forwarded (derives : List Path) : List Path := derives.filter isForwarded

/-- Whether an attribute lists derives. -/
def isDerive (a : Attribute) : Bool := a.path.isName "derive"

/-- Paths with commas between them. -/
def paths (g : Nonterminals) : Reader (List Path) := Reader.listOf (Rules.path g false)

/-- The paths that one attribute lists. -/
def ofAttribute (a : Attribute) : Except Fault (List Path) :=
  match a.entry.argument with
  | .none => throw ⟨.noArguments a.path.text, a.path.span⟩
  | .value equals _ _ => throw ⟨.valueForArguments a.path.text, equals⟩
  | .list _ _ closes tokens => readAll closes paths tokens

/-- The paths that all derives list; the first attribute that lists no paths is a fault. -/
def ofAttributes (as : List Attribute) : Except Fault (List Path) := do
  return (← (as.filter isDerive).mapM ofAttribute).flatten

end RequestGroups.Derives
