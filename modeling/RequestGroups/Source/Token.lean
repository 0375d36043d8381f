import RequestGroups.Source.Span

/-! # Token trees

Source text is a sequence of token trees: identifiers, punctuation of one character each, literals
as they are spelled, and groups in delimiters.

* `TokenTree.words` lists the tokens of a tree, the delimiters of a group as words of their own;
* `render` writes token trees with one space between words;
* `compactOf` writes them with the signs that are joined together, which is how two types are
  compared. -/

namespace RequestGroups.Source

/-- An identifier. The spelling `r#name` is raw; the name itself leaves the mark out. -/
structure Ident where
  raw : Bool
  name : String
  span : Span
  deriving DecidableEq, Repr, Inhabited

namespace Ident

/-- A plain identifier that no source text spells. -/
def plain (name : String) : Ident := ⟨false, name, .callSite⟩

/-- The identifier as it is written. -/
def spelling (i : Ident) : String := if i.raw then "r#" ++ i.name else i.name

/-- Whether the identifier is written as the given text. -/
def spells (i : Ident) (text : String) : Bool := i.spelling == text

/-- Whether two identifiers are written alike, wherever they stand. -/
def same (i j : Ident) : Bool := i.raw == j.raw && i.name == j.name

theorem same_self (i : Ident) : i.same i := by simp [same]

theorem name_eq_of_same {i j : Ident} (h : i.same j) : i.name = j.name := by
  simp only [same, Bool.and_eq_true, beq_iff_eq] at h
  exact h.2

end Ident

/-- The pairs of delimiters. -/
inductive Delimiter where
  | paren
  | bracket
  | brace
  deriving DecidableEq, Repr, Inhabited

/-- The sign that opens a group. -/
def Delimiter.opening : Delimiter → String
  | .paren => "("
  | .bracket => "["
  | .brace => "\x7b"

/-- The sign that closes a group. -/
def Delimiter.closing : Delimiter → String
  | .paren => ")"
  | .bracket => "]"
  | .brace => "\x7d"

/-- A token, or a group of token trees. A punctuation character is joint if punctuation follows it
at once. -/
inductive TokenTree where
  | ident (i : Ident)
  | punct (sign : Char) (joint : Bool) (span : Span)
  | literal (text : String) (span : Span)
  | group (d : Delimiter) (opens closes : Span) (inner : List TokenTree)
  deriving Repr, Inhabited

namespace TokenTree

/-- Where the tree stands. -/
def span : TokenTree → Span
  | ident i => i.span
  | punct _ _ s => s
  | literal _ s => s
  | group _ opens closes _ => opens.through closes

/-- Where the first token of the tree stands. -/
def headSpan : TokenTree → Span
  | group _ opens _ _ => opens
  | t => t.span

mutual

/-- The tree with another place for all of its tokens. -/
def respan (s : Span) : TokenTree → TokenTree
  | ident i => ident { i with span := s }
  | punct c joint _ => punct c joint s
  | literal t _ => literal t s
  | group d _ _ inner => group d s s (respanAll s inner)

/-- Trees with another place for all of their tokens. -/
def respanAll (s : Span) : List TokenTree → List TokenTree
  | [] => []
  | t :: ts => respan s t :: respanAll s ts

end

mutual

/-- The last place counts. -/
theorem respan_respan (s r : Span) : ∀ t : TokenTree, (t.respan s).respan r = t.respan r
  | ident _ | punct .. | literal .. => rfl
  | group d _ _ inner => congrArg (group d r r) (respanAll_respanAll s r inner)

theorem respanAll_respanAll (s r : Span) :
    ∀ ts : List TokenTree, respanAll r (respanAll s ts) = respanAll r ts
  | [] => rfl
  | t :: ts => by
    rw [respanAll, respanAll, respan_respan s r t, respanAll_respanAll s r ts, respanAll]

end

theorem respanAll_append (s : Span) (ts us : List TokenTree) :
    respanAll s (ts ++ us) = respanAll s ts ++ respanAll s us := by
  induction ts with
  | nil => rfl
  | cons t ts ih => rw [List.cons_append, respanAll, ih, respanAll, List.cons_append]

mutual

/-- The tokens of the tree. -/
def words : TokenTree → List String
  | ident i => [i.spelling]
  | punct c _ _ => [c.toString]
  | literal t _ => [t]
  | group d _ _ inner => d.opening :: wordsOf inner ++ [d.closing]

/-- The tokens of a sequence of trees. -/
def wordsOf : List TokenTree → List String
  | [] => []
  | t :: ts => t.words ++ wordsOf ts

end

theorem wordsOf_append (ts us : List TokenTree) :
    wordsOf (ts ++ us) = wordsOf ts ++ wordsOf us := by
  induction ts with
  | nil => rfl
  | cons t ts ih => simp [wordsOf, ih]

theorem words_ne_nil (t : TokenTree) : t.words ≠ [] := by cases t <;> simp [words]

theorem wordsOf_eq_nil {ts : List TokenTree} : wordsOf ts = [] ↔ ts = [] := by
  cases ts with
  | nil => simp [wordsOf]
  | cons t ts => simp [wordsOf, words_ne_nil]

mutual

/-- The number of tokens of the tree, a group's two delimiters included. -/
def count : TokenTree → Nat
  | group _ _ _ inner => 2 + countOf inner
  | _ => 1

/-- The number of tokens of a sequence of trees. -/
def countOf : List TokenTree → Nat
  | [] => 0
  | t :: ts => t.count + countOf ts

end

mutual

/-- Places are no part of the tokens. -/
theorem words_respan (s : Span) : ∀ t : TokenTree, (t.respan s).words = t.words
  | ident _ | punct .. | literal .. => rfl
  | group d _ _ inner => by rw [respan, words, wordsOf_respanAll s inner, words]

theorem wordsOf_respanAll (s : Span) : ∀ ts : List TokenTree, wordsOf (respanAll s ts) = wordsOf ts
  | [] => rfl
  | t :: ts => by rw [respanAll, wordsOf, words_respan s t, wordsOf_respanAll s ts, wordsOf]

end

theorem countOf_append (ts us : List TokenTree) :
    countOf (ts ++ us) = countOf ts + countOf us := by
  induction ts with
  | nil => simp [countOf]
  | cons t ts ih => simp [countOf, ih, Nat.add_assoc]

end TokenTree

mutual

/-- The text of a tree in which joint signs stand together. -/
def TokenTree.compact : TokenTree → String
  | .ident i => i.spelling
  | .punct c _ _ => c.toString
  | .literal t _ => t
  | .group d _ _ inner =>
    let text := compactOf inner
    match d with
    | .brace => "\x7b " ++ text ++ (if inner.isEmpty then "" else " ") ++ "\x7d"
    | _ => d.opening ++ text ++ d.closing

/-- The text of token trees, with a space between any two but behind a joint sign. -/
def compactOf : List TokenTree → String
  | [] => ""
  | [t] => t.compact
  | t :: u :: rest =>
    let space := match t with
      | .punct _ joint _ => if joint then "" else " "
      | _ => " "
    t.compact ++ space ++ compactOf (u :: rest)

end

/-- Token trees as text, with one space between words. -/
def render (ts : List TokenTree) : String := " ".intercalate (TokenTree.wordsOf ts)

end RequestGroups.Source
