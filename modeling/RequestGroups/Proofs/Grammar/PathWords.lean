import RequestGroups.Proofs.Grammar.Lists
import RequestGroups.Proofs.Grammar.PathText
import RequestGroups.Proofs.Grammar.Reads

/-! # Paths of words are read

A path is read up to the end of its words: no reader of inner phrases is asked as long as nothing
stands in angle brackets.

* `Rules.isPathWord` says which words may stand in a path;
* `Rules.path_words` reads a path of words without arguments. -/

namespace RequestGroups.Grammar

open Source Reader

variable {g : Nonterminals} {i : Ident} {is : List Ident} {rest : List TokenTree} {scope : Span}
  {within : Option Delimiter}

namespace Rules

/-- Whether a word may stand in a path: a name, or a keyword for a place or a type. -/
def isPathWord (i : Ident) : Bool :=
  Look.isName i || ["super", "self", "crate", "try", "Self"].any i.spells

/-- Whether neither arguments nor another word of a path stand here. -/
def EndsPath (ts : List TokenTree) : Prop := Look.sign "<" ts = false ∧ Look.sign "::" ts = false

/-- **A word without arguments** is read as a segment. -/
theorem segment_word (h : isPathWord i) (hless : Look.sign "<" rest = false)
    (hcolons : (Look.sign "::" rest && Look.sign "<" (Look.skip (Look.skip rest))) = false) :
    segment g false ⟨.ident i :: rest, scope, within, none⟩ =
      .ok (⟨i, []⟩, ⟨rest, scope, within, none⟩) := by
  rcases place : seesModuleWord (.ident i :: rest) || Look.word "try" (.ident i :: rest)
  · have word : ∀ k : Ident → Reader PathSegment, (if Look.word "Self" (.ident i :: rest)
        then anyIdent >>= k else ident >>= k) ⟨.ident i :: rest, scope, within, none⟩ =
          k i ⟨rest, scope, within, none⟩ := by
      intro k
      rcases self : Look.word "Self" (.ident i :: rest)
      · simp only [seesModuleWord, Look.word, Bool.or_eq_false_iff] at place self
        have name : Look.isName i := by simpa [isPathWord, place, self] using h
        exact bind_eq (ident_eq_ok name) k
      · rfl
    have stop : ¬ (!false && Look.sign "<" rest && !Look.sign "<=" rest ||
        (Look.sign "::" rest && Look.sign "<" (Look.skip (Look.skip rest)))) = true := by
      rw [hless, hcolons]
      exact Bool.false_ne_true
    rw [segment, bind_eq (sees_eq place)]
    refine (bind_eq (sees_eq rfl) _).trans ((word _).trans ?_)
    exact (bind_eq (ahead_eq _) _).trans (congrFun (if_neg stop) _)
  · rw [segment, bind_eq (sees_eq place)]
    rfl

/-- No arguments stand in front of more words, or at the end of a path. -/
theorem noArguments_furtherWords (is : List Ident) (hrest : EndsPath rest) :
    Look.sign "<" (furtherWords is ++ rest) = false ∧
      (Look.sign "::" (furtherWords is ++ rest) &&
        Look.sign "<" (Look.skip (Look.skip (furtherWords is ++ rest)))) = false := by
  cases is with
  | nil =>
    refine ⟨hrest.1, ?_⟩
    rw [furtherWords, List.flatMap_nil, List.nil_append, hrest.2, Bool.false_and]
  | cons i is => exact ⟨rfl, rfl⟩

theorem moreSegments_words (his : ∀ i ∈ is, isPathWord i) (hrest : EndsPath rest)
    (done : List PathSegment) :
    moreSegments g false done ⟨furtherWords is ++ rest, scope, within, none⟩ =
      .ok (done ++ is.map (⟨·, []⟩), ⟨rest, scope, within, none⟩) := by
  induction is generalizing done with
  | nil =>
    have stop : (!Look.sign "::" rest || Look.group .paren (Look.skip (Look.skip rest))) = true := by
      rw [hrest.2]
      rfl
    rw [List.map_nil, List.append_nil]
    refine iterate_none ?_
    exact (bind_eq (ahead_eq _) _).trans (congrFun (if_pos stop) _)
  | cons i is ih =>
    obtain ⟨hi, his⟩ := List.forall_mem_cons.1 his
    obtain ⟨hless, hcolons⟩ := noArguments_furtherWords is hrest
    have word : segment g false ⟨.ident i :: (furtherWords is ++ rest), scope, within, none⟩ =
        .ok (⟨i, []⟩, ⟨furtherWords is ++ rest, scope, within, none⟩) :=
      segment_word hi hless hcolons
    rw [moreSegments, iterate_some (t := done ++ [⟨i, []⟩])
      (j := ⟨furtherWords is ++ rest, scope, within, none⟩)]
    · refine (ih his _).trans ?_
      rw [List.append_assoc]
      rfl
    · refine (bind_eq (ahead_eq _) _).trans ?_
      exact (bind_eq (sign_eq rfl) _).trans (bind_eq word _)
    · simp [furtherWords, Phrase.sign, Phrase.sign.go]
      omega

/-- **A path of words** is read up to its end. -/
theorem path_words {rooted : Bool} {first : Ident} (hfirst : isPathWord first)
    (his : ∀ i ∈ is, isPathWord i) :
    Reads (path g false) (Path.ofWords rooted first is).trees (.ofWords rooted first is)
      EndsPath := by
  intro rest scope within hrest
  obtain ⟨hless, hcolons⟩ := noArguments_furtherWords is hrest
  have head : segment g false ⟨.ident first :: (furtherWords is ++ rest), scope, within, none⟩ =
      .ok (⟨first, []⟩, ⟨furtherWords is ++ rest, scope, within, none⟩) :=
    segment_word hfirst hless hcolons
  have more : moreSegments g false [⟨first, []⟩]
      ⟨furtherWords is ++ rest, scope, within, none⟩ =
        .ok ([⟨first, []⟩] ++ is.map (⟨·, []⟩), ⟨rest, scope, within, none⟩) :=
    moreSegments_words his hrest [⟨first, []⟩]
  have start : sign? "::" ⟨(Path.ofWords rooted first is).trees ++ rest, scope, within, none⟩ =
      .ok (if rooted then some (Phrase.sign "::") else none,
        ⟨.ident first :: (furtherWords is ++ rest), scope, within, none⟩) := by
    rw [Path.trees_ofWords]
    cases rooted
    · exact sign?_eq_none rfl
    · exact bind_eq (sees_eq rfl) _
  rw [path, bind_eq start, bind_eq head]
  refine (bind_eq more _).trans ?_
  cases rooted <;> rfl

end Rules

end RequestGroups.Grammar
