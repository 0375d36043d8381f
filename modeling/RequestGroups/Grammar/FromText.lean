import RequestGroups.Grammar.Recursion
import RequestGroups.Source.Lexer

/-! # Reading source texts

* `TextFault` is what is wrong with a source text: its characters are no tokens, or its tokens are
  no phrase of the grammar;
* `Item.ofText`, `TypePhrase.ofText` and the like read a source text. -/

namespace RequestGroups.Grammar

open RequestGroups.Source

/-- What is wrong with a source text. -/
inductive TextFault where
  /-- The characters from a place on are no tokens. -/
  | tokens (place : Position)
  | phrase (fault : Fault)
  deriving Repr

/-- The tokens of a source text. -/
def tokensOf (text : String) : Except TextFault (List TokenTree) := (tokenize text).mapError .tokens

/-- Reads the tokens of a source text. -/
def readText (read : List TokenTree → Except Fault α) (text : String) : Except TextFault α := do
  (read (← tokensOf text)).mapError .phrase

/-- Reads an item. -/
def Item.ofText (text : String) : Except TextFault Item := readText Item.read text

/-- Reads a type. -/
def TypePhrase.ofText (text : String) : Except TextFault TypePhrase := readText TypePhrase.read text

/-- Reads a path with generic arguments. -/
def Path.ofText (text : String) : Except TextFault Path := readText Path.read text

/-- Reads attributes. -/
def Attribute.ofText (text : String) : Except TextFault (List Attribute) :=
  readText Attribute.readAll text

/-- Reads a visibility. -/
def visibilityOfText (text : String) : Except TextFault Phrase := readText visibilityOf text

/-- Reads an identifier, which then stands in no source text. -/
def identOfText? (text : String) : Option Ident :=
  match readText (Grammar.readAll .callSite fun _ => Reader.ident) text with
  | .ok i => some { i with span := .callSite }
  | .error _ => none

end RequestGroups.Grammar
