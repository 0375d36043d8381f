import RequestGroups.Source.Token

/-! # Phrases

A phrase is a piece of source text after reading: the token trees that it is written with, in
which the attributes of the fields of every struct, union and enum variant are marked, however
deep the fields are nested.

* `Phrase.trees` writes a phrase;
* `Phrase.strip` removes the field attributes that a predicate chooses and nothing else. -/

namespace RequestGroups.Grammar

open RequestGroups.Source

/-- An element of a phrase. -/
inductive Part where
  /-- A token, or a group whose contents are not read. -/
  | verbatim (tree : TokenTree)
  /-- A group whose contents are read. -/
  | group (d : Delimiter) (inner : List Part)
  /-- An attribute on a field; `tag` is its path if that is a single identifier. -/
  | fieldAttribute (tag : Option String) (inner : List Part)
  deriving Repr, Inhabited

/-- A piece of source text after reading. -/
abbrev Phrase := List Part

namespace Part

mutual

/-- The token trees of an element. -/
def trees : Part → List TokenTree
  | verbatim t => [t]
  | group d inner => [.group d .callSite .callSite (treesOf inner)]
  | fieldAttribute _ inner => treesOf inner

/-- The token trees of a phrase. -/
def treesOf : List Part → List TokenTree
  | [] => []
  | p :: ps => p.trees ++ treesOf ps

end

mutual

/-- Removes the chosen field attributes from an element. -/
def strip (chosen : String → Bool) : Part → List Part
  | verbatim t => [verbatim t]
  | group d inner => [group d (stripAll chosen inner)]
  | fieldAttribute tag inner =>
    if tag.any chosen then [] else [fieldAttribute tag (stripAll chosen inner)]

/-- Removes the chosen field attributes from a phrase. -/
def stripAll (chosen : String → Bool) : List Part → List Part
  | [] => []
  | p :: ps => p.strip chosen ++ stripAll chosen ps

end

end Part

namespace Phrase

/-- The token trees of a phrase. -/
def trees (p : Phrase) : List TokenTree := Part.treesOf p

/-- Removes the chosen field attributes. -/
def strip (chosen : String → Bool) (p : Phrase) : Phrase := Part.stripAll chosen p

/-- A phrase of token trees whose contents are not read. -/
def verbatim (ts : List TokenTree) : Phrase := ts.map .verbatim

@[simp] theorem trees_nil : trees [] = [] := rfl

@[simp] theorem trees_append (p q : Phrase) : trees (p ++ q) = trees p ++ trees q := by
  induction p with
  | nil => rfl
  | cons x p ih => simp_all [trees, Part.treesOf]

theorem trees_flatMap (f : α → Phrase) (as : List α) :
    trees (as.flatMap f) = as.flatMap fun a => trees (f a) := by
  induction as with
  | nil => rfl
  | cons a as ih => rw [List.flatMap_cons, trees_append, ih, List.flatMap_cons]

@[simp] theorem trees_verbatim (ts : List TokenTree) : trees (verbatim ts) = ts := by
  induction ts with
  | nil => rfl
  | cons t ts ih => simp_all [trees, verbatim, Part.treesOf, Part.trees]

@[simp] theorem strip_nil (chosen : String → Bool) : strip chosen [] = [] := rfl

@[simp] theorem strip_append (chosen : String → Bool) (p q : Phrase) :
    strip chosen (p ++ q) = strip chosen p ++ strip chosen q := by
  induction p with
  | nil => rfl
  | cons x p ih => simp_all [strip, Part.stripAll]

@[simp] theorem strip_verbatim (chosen : String → Bool) (ts : List TokenTree) :
    strip chosen (verbatim ts) = verbatim ts := by
  induction ts with
  | nil => rfl
  | cons t ts ih => simp_all [strip, verbatim, Part.stripAll, Part.strip]

/-- An identifier as a phrase. -/
def ident (i : Ident) : Phrase := [.verbatim (.ident i)]

/-- A word as a phrase. -/
def word (name : String) : Phrase := ident (.plain name)

/-- A punctuation sign of one or more characters as a phrase. -/
def sign (text : String) : Phrase := verbatim (go text.toList)
where
  /-- The characters of a sign, all but the last one joint. -/
  go : List Char → List TokenTree
    | [] => []
    | [c] => [.punct c false .callSite]
    | c :: cs => .punct c true .callSite :: go cs

/-- A group as a phrase. -/
def group (d : Delimiter) (inner : Phrase) : Phrase := [.group d inner]

/-- Whether the last element is a group in braces. -/
def endsInBrace (p : Phrase) : Bool :=
  match p.getLast? with
  | some (.group .brace _) => true
  | some (.verbatim (.group .brace _ _ _)) => true
  | _ => false

end Phrase

end RequestGroups.Grammar
