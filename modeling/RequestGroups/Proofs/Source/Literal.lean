import RequestGroups.Proofs.Text.Quoted
import RequestGroups.Source.Lexer

/-! # Quoted literals are single tokens

A text between quotes is one piece for the lexer, from the opening quote to the closing one. So the
literal that is written for a string stands alone as a token of its own.

* `scan_quoted`: a quoted literal at the front of a text is the first piece;
* `tokenize_quoted`, `tokenize_write`: a text that is a quoted literal is one token. -/

namespace RequestGroups.Source

open RequestGroups.Text

variable {cs v rest : List Char} {text : String}

/-- What the opening quote starts is read as a string before anything else is tried. -/
theorem dropLiteral_quoted (h : Quoted.scan .string cs = some (v, rest)) :
    dropLiteral ('"' :: cs) = some (dropSuffix rest) := by
  have opening : dropStart "\"" ('"' :: cs) = some cs := rfl
  have contents : dropQuoted .string cs = some (dropSuffix rest) := by
    rw [dropQuoted, h]
    rfl
  rw [dropLiteral, opening, Option.bind_eq_bind, Option.bind_some, contents]
  rfl

/-- A quoted literal at the front of a text is the first piece. -/
theorem scan_quoted (h : Quoted.scan .string cs = some (v, rest)) :
    scan ('"' :: cs) = some (.literal, dropSuffix rest) := by
  have piece : token ('"' :: cs) = some (.literal, dropSuffix rest) := by
    rw [token, dropLiteral_quoted h]
  have isToken : scan ('"' :: cs) = token ('"' :: cs) := rfl
  rw [isToken, piece]

theorem lexemes_quoted {p : Position} (h : Quoted.scan .string cs = some (v, [])) :
    lexemes p ('"' :: cs) =
      [.tree (.literal (.ofList ('"' :: cs)) ⟨p, p.advance ('"' :: cs)⟩)] := by
  have piece : scan ('"' :: cs) = some (.literal, []) := scan_quoted h
  have shorter : ([] : List Char).length < ('"' :: cs).length := Nat.succ_pos _
  have whole : before ('"' :: cs) [] = '"' :: cs := List.take_length
  have nothing : lexemes (p.advance ('"' :: cs)) [] = [] := by
    rw [lexemes]
    rfl
  rw [lexemes, if_neg (List.cons_ne_nil _ _), piece]
  dsimp only
  rw [if_pos shorter, whole, nothing]
  rfl

/-- A text that is a quoted literal is one token. -/
theorem tokenize_quoted (ht : text.toList = '"' :: cs)
    (h : Quoted.scan .string cs = some (v, [])) :
    tokenize text = .ok [.literal text ⟨.start, Position.start.advance text.toList⟩] := by
  have noMark : tokenize text = trees [] [] (lexemes .start ('"' :: cs)) := by
    rw [tokenize, ht]
    rfl
  rw [noMark, lexemes_quoted h, ← ht, String.ofList_toList]
  rfl

/-- **The literal of a string** is one token. -/
theorem tokenize_write (s : String) : tokenize (Quoted.write s) =
    .ok [.literal (Quoted.write s) ⟨.start, Position.start.advance (Quoted.write s).toList⟩] :=
  tokenize_quoted String.toList_ofList (Quoted.scan_writeContents s.toList [])

end RequestGroups.Source
