import RequestGroups.Source.Token
import RequestGroups.Text.Blank
import RequestGroups.Text.Identifier
import RequestGroups.Text.Quoted

/-! # From text to token trees

* `scan` reads one piece of a text: blanks, a comment, a delimiter or a token;
* `lexemes` cuts a text into pieces and says where each stands;
* `trees` matches the delimiters;
* `tokenize` is the whole way. A text that is no sequence of token trees gives the position of the
  first piece that does not fit. -/

namespace RequestGroups.Source

open RequestGroups.Text

/-! ### Literals

Each reader takes a text that may start with a literal and gives what follows the literal. -/

/-- Drops an identifier from the front of a text. -/
def dropIdent : List Char → Option (List Char)
  | c :: rest => if isIdentStart c then some (rest.dropWhile isIdentContinue) else none
  | [] => none

/-- Drops the suffix of a literal, if there is one. -/
def dropSuffix (cs : List Char) : List Char := (dropIdent cs).getD cs

/-- Drops a given start from a text. -/
def dropStart (start : String) (cs : List Char) : Option (List Char) :=
  if start.toList.isPrefixOf cs then some (cs.drop start.length) else none

/-- Drops a quoted literal whose opening quote is already read. -/
def dropQuoted (k : Quoted.Rules) (cs : List Char) : Option (List Char) :=
  (Quoted.scan k cs).map fun (_, rest) => dropSuffix rest

/-- Drops a raw literal whose opening letters are already read; it has at most 255 hashes. -/
def dropRaw (k : Quoted.Rules) (cs : List Char) : Option (List Char) :=
  let hashes := (cs.takeWhile (· == '#')).length
  match cs.drop hashes with
  | '"' :: contents =>
    if 255 < hashes then none
    else (Quoted.scanRaw k hashes contents).map fun (_, rest) => dropSuffix rest
  | _ => none

/-- Drops a literal of one character between single quotes whose opening quote is already read. -/
def dropCharacter (k : Quoted.Rules) (cs : List Char) : Option (List Char) :=
  let body := match cs with
    | '\\' :: rest => (Quoted.escape k rest).map (·.2)
    | c :: rest => if k.beyondAscii || c.toNat < 128 then some rest else none
    | [] => none
  match body with
  | some ('\'' :: rest) => some (dropSuffix rest)
  | _ => none

/-- Whether a number may end here. -/
def endsNumber (cs : List Char) : Bool := !cs.head?.any isIdentContinue

/-- The rest after the suffix of a number. -/
def dropNumberEnd (cs : List Char) : Option (List Char) :=
  if endsNumber (dropSuffix cs) then some (dropSuffix cs) else none

/-- Drops the exponent of a number after its letter: digits and underscores with at least one
digit, and at most one sign in front of the first digit. -/
def dropExponent (signed digits : Bool) : List Char → Option (List Char)
  | [] => if digits then some [] else none
  | c :: rest =>
    if c == '+' || c == '-' then
      if digits then some (c :: rest)
      else if signed then none
      else dropExponent true digits rest
    else if c.isDigit then dropExponent signed true rest
    else if c == '_' then dropExponent signed digits rest
    else if digits then some (c :: rest) else none

/-- Whether the character is a decimal digit or an underscore. -/
def isNumberDigit (c : Char) : Bool := c.isDigit || c == '_'

/-- Drops the digits, point and exponent of a number with a point or an exponent. A letter `e`
without exponent ends the number, which then needs a point. -/
def dropFloatDigits (cs : List Char) : Option (List Char) :=
  if !cs.head?.any Char.isDigit then none
  else
    let withExponent := fun (rest : List Char) =>
      match rest with
      | 'e' :: after => dropExponent false false after
      | 'E' :: after => dropExponent false false after
      | _ => none
    match cs.dropWhile isNumberDigit with
    | '.' :: rest =>
      if rest.head?.any fun c => c == '.' || isIdentStart c then none
      else
        let fraction := rest.dropWhile isNumberDigit
        some ((withExponent fraction).getD fraction)
    | rest => withExponent rest

/-- Drops the digits of an integer in base `base`, where `some` holds once a digit is read. -/
def dropDigits (base : Nat) (some? : Bool) : List Char → Option (List Char)
  | [] => if some? then some [] else none
  | c :: rest =>
    let stop := if some? then some (c :: rest) else none
    if c.isDigit then if c.toNat - 48 < base then dropDigits base true rest else none
    else if c == '_' then if !some? && base == 10 then none else dropDigits base some? rest
    else match Hex.digit? c with
      | some d => if d < base then dropDigits base true rest else stop
      | none => stop

/-- Drops the digits of an integer, with the mark of its base. -/
def dropIntegerDigits (cs : List Char) : Option (List Char) :=
  match cs with
  | '0' :: 'x' :: rest => dropDigits 16 false rest
  | '0' :: 'o' :: rest => dropDigits 8 false rest
  | '0' :: 'b' :: rest => dropDigits 2 false rest
  | _ => dropDigits 10 false cs

/-- Drops a literal. -/
def dropLiteral (cs : List Char) : Option (List Char) :=
  (dropStart "\"" cs >>= dropQuoted .string)
    <|> (dropStart "r" cs >>= dropRaw .string)
    <|> (dropStart "b\"" cs >>= dropQuoted .bytes)
    <|> (dropStart "br" cs >>= dropRaw .bytes)
    <|> (dropStart "c\"" cs >>= dropQuoted .zeroEnded)
    <|> (dropStart "cr" cs >>= dropRaw .zeroEnded)
    <|> (dropStart "b'" cs >>= dropCharacter .byte)
    <|> (dropStart "'" cs >>= dropCharacter .character)
    <|> (dropFloatDigits cs >>= dropNumberEnd)
    <|> (dropIntegerDigits cs >>= dropNumberEnd)

/-! ### Punctuation and identifiers -/

/-- Whether the text starts with a comment. -/
def startsComment (cs : List Char) : Bool :=
  "//".toList.isPrefixOf cs || "/*".toList.isPrefixOf cs

/-- The punctuation character at the front of a text. -/
def sign? (cs : List Char) : Option (Char × List Char) :=
  match cs with
  | c :: rest =>
    if "~!@#$%^&*-=+|;:,<.>/?'".toList.contains c && !startsComment cs then some (c, rest) else none
  | [] => none

/-- The identifiers that have no raw form. -/
def neverRaw : List String := ["_", "super", "self", "Self", "crate"]

/-- Reads an identifier, raw or not. -/
def ident? (cs : List Char) : Option (Bool × String × List Char) :=
  let raw := "r#".toList.isPrefixOf cs
  let body := if raw then cs.drop 2 else cs
  match dropIdent body with
  | some rest =>
    let name := String.ofList (body.take (body.length - rest.length))
    if raw && neverRaw.contains name then none else some (raw, name, rest)
  | none => none

/-- Starts of literals that no identifier may take for its own. -/
def literalStarts : List String :=
  ["r\"", "r#\"", "r##", "b\"", "b'", "br\"", "br#", "c\"", "cr\"", "cr#"]

/-! ### Comments -/

/-- The first line of a text, and the rest from the line feed on. A carriage return in front of the
line feed belongs to neither. -/
def splitLine : List Char → List Char × List Char
  | [] => ([], [])
  | '\n' :: rest => ([], '\n' :: rest)
  | '\r' :: '\n' :: rest => ([], '\n' :: rest)
  | c :: rest => (c :: (splitLine rest).1, (splitLine rest).2)

/-- What follows a block comment, where `depth` comments are open. -/
def dropBlock (depth : Nat) : List Char → Option (List Char)
  | '/' :: '*' :: rest => dropBlock (depth + 1) rest
  | '*' :: '/' :: rest => if depth = 1 then some rest else dropBlock (depth - 1) rest
  | _ :: rest => dropBlock depth rest
  | [] => none

/-- The characters in front of a rest. -/
def before (cs rest : List Char) : List Char := cs.take (cs.length - rest.length)

/-- Whether every carriage return comes with a line feed. -/
def breaksAreWhole : List Char → Bool
  | [] => true
  | '\r' :: '\n' :: rest => breaksAreWhole rest
  | '\r' :: _ => false
  | _ :: rest => breaksAreWhole rest

/-! ### Pieces -/

/-- A piece of a text. -/
inductive Piece where
  | blank
  | doc (inner : Bool) (text : String)
  | opens (d : Delimiter)
  | closes (d : Delimiter)
  | ident (raw : Bool) (name : String)
  | punct (sign : Char) (joint : Bool)
  | literal

/-- A documentation comment: the text after the given start, on one line or in a block. -/
def docComment (start : String) (inner : Bool) (cs : List Char) : Option (Piece × List Char) := do
  let body ← dropStart start cs
  let (text, rest) ←
    if "//".toList.isPrefixOf cs then some (splitLine body)
    else
      let rest ← dropBlock 0 cs
      some ((before body rest).dropLast.dropLast, rest)
  if breaksAreWhole text then some (.doc inner (.ofList text), rest) else none

/-- A comment of any kind at the front of a text. Four slashes, three stars and the empty block
start no documentation. -/
def comment (cs : List Char) : Option (Piece × List Char) :=
  let starts := fun (s : String) => s.toList.isPrefixOf cs
  if starts "//!" then docComment "//!" true cs
  else if starts "//" then
    if starts "///" && !starts "////" then docComment "///" false cs
    else some (.blank, (splitLine cs).2)
  else if starts "/*!" then docComment "/*!" true cs
  else if starts "/**/" then some (.blank, cs.drop 4)
  else if starts "/*" then
    if starts "/**" && !starts "/***" then docComment "/**" false cs
    else (dropBlock 0 cs).map fun rest => (.blank, rest)
  else none

/-- The literal that stands for tokens which could not be read. -/
def errorLiteral : String := "(/*ERROR*/)"

/-- A token that is no delimiter. The quote in front of a lifetime counts as joint punctuation. -/
def token (cs : List Char) : Option (Piece × List Char) :=
  match dropLiteral cs with
  | some rest => some (.literal, rest)
  | none =>
    match sign? cs with
    | some ('\'', rest) =>
      match ident? rest with
      | some (_, _, after) =>
        if after.head? = some '\'' ∨ (after.head? = some '#' ∧ !"r#".toList.isPrefixOf rest) then
          none
        else some (.punct '\'' true, rest)
      | none => none
    | some (c, rest) => some (.punct c (sign? rest).isSome, rest)
    | none =>
      if literalStarts.any fun s => s.toList.isPrefixOf cs then none
      else (ident? cs).map fun (raw, name, rest) => (.ident raw name, rest)

/-- Reads the first piece of a text that is not empty. -/
def scan (cs : List Char) : Option (Piece × List Char) :=
  match cs with
  | [] => none
  | c :: rest =>
    if isSeparator c then some (.blank, rest)
    else if startsComment cs then comment cs
    else if errorLiteral.toList.isPrefixOf cs then some (.literal, cs.drop errorLiteral.length)
    else match c with
      | '(' => some (.opens .paren, rest)
      | '[' => some (.opens .bracket, rest)
      | '\x7b' => some (.opens .brace, rest)
      | ')' => some (.closes .paren, rest)
      | ']' => some (.closes .bracket, rest)
      | '\x7d' => some (.closes .brace, rest)
      | _ => token cs

/-! ### Lexemes -/

/-- A piece of a text that counts, with its place. -/
inductive Lexeme where
  | tree (t : TokenTree)
  | opens (d : Delimiter) (span : Span)
  | closes (d : Delimiter) (span : Span)
  | invalid (position : Position)
  deriving Repr, Inhabited

/-- The attribute that a documentation comment stands for. -/
def docAttribute (inner : Bool) (text : String) (span : Span) : List TokenTree :=
  let firstChar : Span := ⟨span.first, ⟨span.first.line, span.first.column + 1⟩⟩
  let lastChar : Span := ⟨⟨span.last.line, span.last.column - 1⟩, span.last⟩
  [.punct '#' false span] ++ (if inner then [.punct '!' false span] else []) ++
    [.group .bracket firstChar lastChar
      [.ident ⟨false, "doc", span⟩, .punct '=' false span, .literal (Quoted.write text) span]]

/-- The lexemes of a piece that is spelled as `text` at `span`. -/
def Piece.lexemes (text : List Char) (span : Span) : Piece → List Lexeme
  | blank => []
  | doc inner contents => (docAttribute inner contents span).map .tree
  | opens d => [.opens d span]
  | closes d => [.closes d span]
  | ident raw name => [.tree (.ident ⟨raw, name, span⟩)]
  | punct c joint => [.tree (.punct c joint span)]
  | literal => [.tree (.literal (.ofList text) span)]

/-- The lexemes of a text that starts at `p`, up to the first that is invalid. -/
def lexemes (p : Position) (cs : List Char) : List Lexeme :=
  if cs = [] then [] else
    match scan cs with
    | some (piece, rest) =>
      if rest.length < cs.length then
        let text := before cs rest
        let stop := p.advance text
        piece.lexemes text ⟨p, stop⟩ ++ lexemes stop rest
      else [.invalid p]
    | none => [.invalid p]
termination_by cs.length

/-! ### Groups -/

/-- A group that is not closed yet: its opening delimiter, and what stood in front of it. -/
structure OpenGroup where
  delimiter : Delimiter
  span : Span
  outside : List TokenTree

/-- Builds the token trees of lexemes; `inside` holds the trees of the innermost open group, the
last one first. -/
def trees (stack : List OpenGroup) (inside : List TokenTree) :
    List Lexeme → Except Position (List TokenTree)
  | [] => match stack with
    | [] => .ok inside.reverse
    | g :: _ => .error g.span.first
  | .tree t :: rest => trees stack (t :: inside) rest
  | .opens d s :: rest => trees (⟨d, s, inside⟩ :: stack) [] rest
  | .closes d s :: rest => match stack with
    | [] => .error s.first
    | g :: outer =>
      if g.delimiter = d then trees outer (.group d g.span s inside.reverse :: g.outside) rest
      else .error s.first
  | .invalid p :: _ => .error p

/-- The token trees of a text, or the position of the first fault. A byte order mark in front is
skipped. -/
def tokenize (text : String) : Except Position (List TokenTree) :=
  match text.toList with
  | '\ufeff' :: cs => trees [] [] (lexemes (Position.start.next '\ufeff') cs)
  | cs => trees [] [] (lexemes .start cs)

end RequestGroups.Source
