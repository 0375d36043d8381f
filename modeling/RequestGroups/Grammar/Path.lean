import RequestGroups.Grammar.Phrase

/-! # Paths

A path is a sequence of names, each with the generic arguments that are written after it.

* `Path.phrase` and `Path.trees` write a path as tokens;
* `Path.text` writes its names alone, without any space. -/

namespace RequestGroups.Grammar

open RequestGroups.Source

/-- A name of a path and the arguments after it; no arguments are the empty phrase. -/
structure PathSegment where
  ident : Ident
  arguments : Phrase
  deriving Repr, Inhabited

/-- A path; `rooted` says that it starts with `::`. -/
structure Path where
  rooted : Bool
  segments : List PathSegment
  deriving Repr, Inhabited

namespace Path

/-- The path of one name. -/
def ofIdent (i : Ident) : Path := ⟨false, [⟨i, []⟩]⟩

/-- A path of plain names. -/
def ofNames (rooted : Bool) (names : List String) : Path :=
  ⟨rooted, names.map fun n => ⟨.plain n, []⟩⟩

/-- The path that goes on with more names. -/
def append (p : Path) (names : List String) : Path :=
  { p with segments := p.segments ++ names.map fun n => ⟨.plain n, []⟩ }

/-- Segments as a phrase, with `::` between them. -/
def segmentsPhrase : List PathSegment → Phrase
  | [] => []
  | [s] => Phrase.ident s.ident ++ s.arguments
  | s :: rest => Phrase.ident s.ident ++ s.arguments ++ Phrase.sign "::" ++ segmentsPhrase rest

/-- The path as a phrase. -/
def phrase (p : Path) : Phrase :=
  (if p.rooted then Phrase.sign "::" else []) ++ segmentsPhrase p.segments

/-- The path as token trees. -/
def trees (p : Path) : List TokenTree := p.phrase.trees

/-- The names of the path as they are written, joined by `::`. -/
def text (p : Path) : String :=
  (if p.rooted then "::" else "") ++ "::".intercalate (p.segments.map (·.ident.spelling))

/-- Removes field attributes inside of the arguments. -/
def strip (chosen : String → Bool) (p : Path) : Path :=
  { p with segments := p.segments.map fun s => { s with arguments := s.arguments.strip chosen } }

/-- Whether no name has arguments. -/
def isPlain (p : Path) : Bool := p.segments.all (·.arguments.isEmpty)

/-- The name, if the path is a single one. -/
def ident? (p : Path) : Option Ident :=
  match p with
  | ⟨false, [⟨i, []⟩]⟩ => some i
  | _ => none

theorem ident?_eq_some {p : Path} {i : Ident} : p.ident? = some i ↔ p = .ofIdent i := by
  constructor
  · intro h
    unfold ident? at h
    split at h
    · cases h
      rfl
    · cases h
  · rintro rfl
    rfl

/-- Whether the path is the single given name. -/
def isName (p : Path) (name : String) : Bool := p.ident?.any (·.spells name)

/-- Where the names of the path stand. -/
def span (p : Path) : Span :=
  match p.segments.head?, p.segments.getLast? with
  | some first, some last => first.ident.span.through last.ident.span
  | _, _ => .callSite

end Path

end RequestGroups.Grammar
