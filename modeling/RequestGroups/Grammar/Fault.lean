import RequestGroups.Source.Token

/-! # Faults of a source text

What is wrong with token trees that follow no rule of the grammar, and where. The wording is in
`Cause.message` alone. -/

namespace RequestGroups.Grammar

open RequestGroups.Source

/-- Why token trees cannot be read. -/
inductive Cause where
  /-- Something else stands where one of the alternatives should. -/
  | expected (alternatives : List String)
  /-- The input ends where one of the alternatives should stand. -/
  | ended (alternatives : List String)
  /-- A keyword stands where an identifier should. -/
  | keyword (word : String)
  /-- Tokens are left over at the end of a group or of the whole input. -/
  | leftover (within : Option Delimiter)
  /-- An attribute has no arguments. -/
  | noArguments (path : String)
  /-- An attribute has a value in place of arguments. -/
  | valueForArguments (path : String)
  /-- A literal starts an entry of an argument list. -/
  | literalArgument
  /-- A token that is no name starts an entry of an argument list. -/
  | tokenArgument
  /-- The name of an argument is none of the known ones. -/
  | unknownArgument
  /-- The header value policy has an unknown name. -/
  | unknownPolicy (name : String)
  /-- A string literal has a suffix where none is allowed. -/
  | suffix (text : String)
  /-- The contents of a string literal are no token trees. -/
  | notTokens
  /-- An attribute stands inside an attribute. -/
  | attributeInAttribute
  /-- The value of one comparison is compared again. -/
  | comparisonChain
  /-- A cast is followed by something that would bind more tightly. -/
  | afterCast (what : String)
  /-- An attribute stands in front of a range without start. -/
  | attributeOnRange
  /-- A labelled loop stands after `break` without parentheses. -/
  | labelAfterBreak
  /-- A receiver stands behind another parameter. -/
  | lateReceiver (second : Bool)
  /-- A bound list has no trait. -/
  | noTrait (message : String)
  /-- A bound is of a kind that may not stand here. -/
  | boundNotAllowed (message : String)
  /-- An implementation without trait is negated. -/
  | negatedInherent
  /-- An open range stands in a slice pattern without parentheses. -/
  | openRangeInSlice
  deriving DecidableEq, Repr

namespace Cause

/-- Lists alternatives in words. -/
def alternativesText : List String → String
  | [] => "unexpected token"
  | [one] => s!"expected {one}"
  | [one, other] => s!"expected {one} or {other}"
  | several => "expected one of: " ++ ", ".intercalate several

/-- The words for a cause. -/
def message : Cause → String
  | expected alternatives => alternativesText alternatives
  | ended [] => "unexpected end of input"
  | ended alternatives => s!"unexpected end of input, {alternativesText alternatives}"
  | keyword word => s!"expected identifier, found keyword `{word}`"
  | leftover none => "unexpected token"
  | leftover (some d) => s!"unexpected token, expected `{d.closing}`"
  | noArguments path => s!"expected attribute arguments in parentheses: #[{path}(...)]"
  | valueForArguments path => s!"expected parentheses: #[{path}(...)]"
  | literalArgument => "unexpected literal in nested attribute, expected ident"
  | tokenArgument => "unexpected token in nested attribute, expected ident"
  | unknownArgument => "unsupported request_model argument, expected one of: " ++
      "headers, body, constructor, header_values, crate"
  | unknownPolicy name => "unknown header_values policy \"" ++ name ++
      "\", expected \"strict\" or \"stringify\""
  | suffix text => s!"unexpected suffix `{text}` on string literal"
  | notTokens => "cannot parse string into token stream"
  | attributeInAttribute => "unexpected attribute inside of attribute"
  | comparisonChain => "comparison operators cannot be chained"
  | afterCast what => s!"casts cannot be followed by {what}"
  | attributeOnRange => "attributes are not allowed on range expressions starting with `..`"
  | labelAfterBreak => "parentheses required"
  | lateReceiver true => "unexpected second method receiver"
  | lateReceiver false => "unexpected method receiver"
  | noTrait text => text
  | boundNotAllowed text => text
  | negatedInherent => "inherent impls cannot be negative"
  | openRangeInSlice => "range pattern is not allowed unparenthesized inside slice pattern"

end Cause

/-- A cause and the place it concerns. -/
structure Fault where
  cause : Cause
  span : Span
  deriving DecidableEq, Repr

end RequestGroups.Grammar
