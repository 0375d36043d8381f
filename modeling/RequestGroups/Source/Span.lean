/-! # Places in a source text

A position is a line, counted from one, and a column, counted in characters from zero. A span goes
from its first position up to, and not including, its last. -/

namespace RequestGroups.Source

/-- A place between two characters of a text. -/
structure Position where
  line : Nat
  column : Nat
  deriving DecidableEq, Repr, Inhabited

/-- The place in front of a text. -/
def Position.start : Position := ⟨1, 0⟩

/-- The place after one more character. -/
def Position.next (p : Position) (c : Char) : Position :=
  if c = '\n' then ⟨p.line + 1, 0⟩ else ⟨p.line, p.column + 1⟩

/-- The place after some more characters. -/
def Position.advance (p : Position) (cs : List Char) : Position := cs.foldl Position.next p

/-- A stretch of a text. -/
structure Span where
  first : Position
  last : Position
  deriving DecidableEq, Repr, Inhabited

/-- The span of names that no source text spells, and of the end of a whole text. -/
def Span.callSite : Span := ⟨.start, .start⟩

/-- From the start of one span to the end of another. -/
def Span.through (s t : Span) : Span := ⟨s.first, t.last⟩

end RequestGroups.Source
