import RequestGroups.Grammar.Fault
import RequestGroups.Grammar.Phrase

/-! # Readers of token trees

A reader takes token trees from the front of an input and gives a value, or a fault.

* `Reader.expected` is the fault of an input that goes on in a wrong way, or ends too early;
* `Reader.inGroup` reads the contents of a group. Contents that are not read to the end are a fault
  of the whole input, reported after everything else is read: the input remembers the first one;
* `Reader.iterate` repeats a reader as long as it takes something;
* `Reader.run` reads a whole sequence of token trees. -/

namespace RequestGroups.Grammar

open RequestGroups.Source

/-- What is still to be read. -/
structure Input where
  /-- The token trees to come. -/
  rest : List TokenTree
  /-- The place that is blamed when they end too early. -/
  scope : Span
  /-- The delimiters around them. -/
  within : Option Delimiter
  /-- The first group so far that was not read to its end. -/
  leftover : Option Fault

/-- A reader of token trees. -/
abbrev Reader := StateT Input (Except Fault)

/-! ### Looking at the front of token trees -/

namespace Look

/-- Whether the trees start with the characters of a sign, joined to one another. -/
def signChars : List Char → List TokenTree → Bool
  | [c], .punct d _ _ :: _ => c == d && c != '\''
  | c :: cs, .punct d joint _ :: rest => c == d && c != '\'' && joint && signChars cs rest
  | _, _ => false

/-- Whether the trees start with a punctuation sign. -/
def sign (text : String) (ts : List TokenTree) : Bool := signChars text.toList ts

/-- Whether the trees start with a given word. -/
def word (name : String) : List TokenTree → Bool
  | .ident i :: _ => i.spells name
  | _ => false

/-- Whether the trees start with a group. -/
def group (d : Delimiter) : List TokenTree → Bool
  | .group e _ _ _ :: _ => d == e
  | _ => false

/-- The words that are no identifiers unless they are raw. -/
def keywords : List String :=
  ["_", "abstract", "as", "async", "await", "become", "box", "break", "const", "continue", "crate",
    "do", "dyn", "else", "enum", "extern", "false", "final", "fn", "for", "if", "impl", "in", "let",
    "loop", "macro", "match", "mod", "move", "mut", "override", "priv", "pub", "ref", "return",
    "Self", "self", "static", "struct", "super", "trait", "true", "try", "type", "typeof", "unsafe",
    "unsized", "use", "virtual", "where", "while", "yield"]

/-- Whether a word may be used as an identifier. -/
def isName (i : Ident) : Bool := i.raw || !keywords.contains i.name

/-- Whether the trees start with an identifier. -/
def ident : List TokenTree → Bool
  | .ident i :: _ => isName i
  | _ => false

/-- Whether the trees start with an identifier or keyword. -/
def anyWord : List TokenTree → Bool
  | .ident _ :: _ => true
  | _ => false

/-- Whether the trees start with a lifetime. -/
def lifetime : List TokenTree → Bool
  | .punct '\'' true _ :: .ident _ :: _ => true
  | _ => false

/-- Whether the text of a literal is a string literal. -/
def isString (text : String) : Bool :=
  match text.toList with
  | '"' :: _ => true
  | 'r' :: _ => true
  | _ => false

/-- Whether the text of a literal is a number. -/
def isNumber (text : String) : Bool := text.toList.head?.any Char.isDigit

/-- Whether the trees start with a literal; a truth value and a number with a minus sign count. -/
def literal : List TokenTree → Bool
  | .literal _ _ :: _ => true
  | .ident i :: _ => i.spells "true" || i.spells "false"
  | .punct '-' _ _ :: .literal text _ :: _ => isNumber text
  | _ => false

/-- Whether the trees start with a string literal. -/
def string : List TokenTree → Bool
  | .literal text _ :: _ => isString text
  | _ => false

/-- The trees after the first one; a lifetime counts as one tree. -/
def skip : List TokenTree → List TokenTree
  | .punct '\'' true _ :: .ident _ :: rest => rest
  | _ :: rest => rest
  | [] => []

/-- A kind of token and its name in messages. -/
structure Kind where
  name : String
  holds : List TokenTree → Bool

/-- A sign as a kind of token. -/
def aSign (text : String) : Kind := ⟨s!"`{text}`", sign text⟩

/-- A word as a kind of token. -/
def aWord (name : String) : Kind := ⟨s!"`{name}`", word name⟩

/-- Identifiers as a kind of token. -/
def anIdent : Kind := ⟨"identifier", ident⟩

/-- Lifetimes as a kind of token. -/
def aLifetime : Kind := ⟨"lifetime", lifetime⟩

/-- Literals as a kind of token. -/
def aLiteral : Kind := ⟨"literal", literal⟩

/-- String literals as a kind of token. -/
def aString : Kind := ⟨"string literal", string⟩

/-- The name of a group in messages. -/
def groupName : Delimiter → String
  | .paren => "parentheses"
  | .bracket => "square brackets"
  | .brace => "curly braces"

/-- Groups as a kind of token. -/
def aGroup (d : Delimiter) : Kind := ⟨groupName d, group d⟩

end Look

namespace Reader

/-! ### Faults -/

/-- The place of the next tree, or the end of the input. -/
def headSpan (i : Input) : Span :=
  match i.rest with
  | t :: _ => t.headSpan
  | [] => i.scope

/-- Stops with a fault at the next tree. -/
def faultHere (cause : Cause) : Reader α := fun i => .error ⟨cause, headSpan i⟩

/-- Stops because none of the alternatives stands here. -/
def expected (alternatives : List String) : Reader α := fun i =>
  .error ⟨if i.rest.isEmpty then .ended alternatives else .expected alternatives, headSpan i⟩

/-- Stops because none of the kinds of token stands here. -/
def expectedKinds (kinds : List Look.Kind) : Reader α := expected (kinds.map (·.name))

/-! ### Single tokens -/

/-- The trees to come. -/
def ahead : Reader (List TokenTree) := do return (← get).rest

/-- Whether the trees to come satisfy a test. -/
def sees (test : List TokenTree → Bool) : Reader Bool := do return test (← get).rest

/-- Whether the input is read to its end. -/
def atEnd : Reader Bool := sees List.isEmpty

/-- Takes a number of trees. -/
def take (n : Nat) : Reader Phrase := fun i =>
  .ok (Phrase.verbatim (i.rest.take n), { i with rest := i.rest.drop n })

/-- Leaves a number of trees out. -/
def drop (n : Nat) : Reader Unit := modify fun i => { i with rest := i.rest.drop n }

/-- Reads a sign if it stands here. Its last character is not joined to what follows. -/
def sign? (text : String) : Reader (Option Phrase) := do
  if ← sees (Look.sign text) then
    drop text.length
    return some (Phrase.sign text)
  else return none

/-- Reads a sign. A wrong token in its place is a fault that does not mention the end. -/
def sign (text : String) : Reader Phrase := do
  match ← sign? text with
  | some s => return s
  | none => faultHere (.expected [s!"`{text}`"])

/-- Reads a given word. -/
def word (name : String) : Reader Phrase := do
  if ← sees (Look.word name) then take 1 else expected [s!"`{name}`"]

/-- Reads a given word if it stands here. -/
def word? (name : String) : Reader (Option Phrase) := do
  if ← sees (Look.word name) then return some (← take 1) else return none

/-- Reads an identifier. -/
def ident : Reader Ident := fun i =>
  match i.rest with
  | .ident name :: rest =>
    if Look.isName name then .ok (name, { i with rest })
    else .error ⟨.keyword name.spelling, name.span⟩
  | _ => expected ["identifier"] i

/-- Reads an identifier or keyword. -/
def anyIdent : Reader Ident := fun i =>
  match i.rest with
  | .ident name :: rest => .ok (name, { i with rest })
  | _ => expected ["ident"] i

/-- Reads a lifetime. -/
def lifetime : Reader Phrase := do
  if ← sees Look.lifetime then take 2 else expected ["lifetime"]

/-- Reads a lifetime if one stands here. -/
def lifetime? : Reader Phrase := do
  if ← sees Look.lifetime then take 2 else return []

/-- Reads a literal. -/
def literal : Reader Phrase := fun i =>
  if Look.literal i.rest then
    match i.rest with
    | .punct .. :: t :: rest => .ok (Phrase.sign "-" ++ Phrase.verbatim [t], { i with rest })
    | _ => take 1 i
  else expected ["literal"] i

/-! ### Groups -/

/-- The fault of trees that are left over. -/
def leftoverFault? (i : Input) : Option Fault :=
  i.rest.head?.map fun t => ⟨.leftover i.within, t.span⟩

/-- Reads a group and its contents. -/
def inGroup (d : Delimiter) (contents : Reader α) : Reader α := fun i =>
  match i.rest with
  | .group e _ closes inner :: rest =>
    if d = e then do
      let (a, j) ← contents ⟨inner, closes, some d, i.leftover⟩
      return (a, { i with rest, leftover := j.leftover <|> leftoverFault? j })
    else expected [Look.groupName d] i
  | _ => expected [Look.groupName d] i

/-- Reads a group whose contents are a phrase. -/
def group (d : Delimiter) (contents : Reader Phrase) : Reader Phrase := do
  return Phrase.group d (← inGroup d contents)

/-- Reads a group of any kind without looking at its contents. -/
def anyGroup : Reader Phrase := fun i =>
  match i.rest with
  | .group .. :: _ => take 1 i
  | _ => expected ["delimiter"] i

/-! ### Combinations -/

/-- Tries a reader: if it fails, nothing is read. -/
def attempt (r : Reader α) : Reader (Option α) := fun i =>
  match r i with
  | .ok (a, j) => .ok (some a, j)
  | .error _ => .ok (none, i)

/-- Reads ahead: what is read stays to be read. -/
def lookAhead (r : Reader α) : Reader α := fun i =>
  match r i with
  | .ok (a, _) => .ok (a, i)
  | .error e => .error e

/-- Reads something and keeps it as it is written, without its structure. -/
def asWritten (r : Reader α) : Reader Phrase := fun i =>
  match r i with
  | .ok (_, j) => .ok (Phrase.verbatim (i.rest.take (i.rest.length - j.rest.length)), j)
  | .error e => .error e

/-- Reads something that has no structure of its own in some forms: these are kept as they are
written. -/
def orAsWritten (keep : Phrase → α) (r : Reader (Option α)) : Reader α := fun i =>
  match r i with
  | .ok (some a, j) => .ok (a, j)
  | .ok (none, j) =>
    .ok (keep (Phrase.verbatim (i.rest.take (i.rest.length - j.rest.length))), j)
  | .error e => .error e

/-- Reads something and says where it stands. -/
def spanned (r : Reader α) : Reader (α × Span) := fun i =>
  match r i with
  | .ok (a, j) =>
    let taken := i.rest.take (i.rest.length - j.rest.length)
    .ok ((a, (headSpan i).through ((taken.getLast?.map TokenTree.span).getD (headSpan i))), j)
  | .error e => .error e

/-- Repeats a step that changes a state, until it gives `none` or takes nothing. -/
def iterate (step : σ → Reader (Option σ)) (s : σ) : Reader σ := fun i =>
  match step s i with
  | .error e => .error e
  | .ok (none, j) => .ok (s, j)
  | .ok (some t, j) =>
    if j.rest.length < i.rest.length then iterate step t j else .ok (t, j)
termination_by i => i.rest.length

/-- Reads elements with separators between them up to a stop, at which a separator may stand too. -/
def separated (sep : Reader Phrase) (stop : Reader Bool) (element : Reader Phrase) :
    Reader Phrase :=
  iterate (fun done => do
    if ← stop then return none
    let item ← element
    if ← stop then return some (done ++ item)
    return some (done ++ item ++ (← sep))) []

/-- Reads elements with commas between them up to the end of the input. -/
def commaSeparated (element : Reader Phrase) : Reader Phrase :=
  separated (sign ",") atEnd element

/-- Reads values with commas between them up to the end of the input. -/
def listOf (element : Reader α) : Reader (List α) :=
  iterate (fun done => do
    if ← atEnd then return none
    let item ← element
    if !(← atEnd) then let _ ← sign ","
    return some (done ++ [item])) []

/-- Reads elements up to the end of the input. -/
def untilEnd (element : Reader Phrase) : Reader Phrase :=
  iterate (fun done => do
    if ← atEnd then return none
    return some (done ++ (← element))) []

/-- Reads a whole sequence of trees; `scope` is blamed when it ends too early. -/
def run (scope : Span) (r : Reader α) (ts : List TokenTree) : Except Fault α := do
  let (a, i) ← r ⟨ts, scope, none, none⟩
  match i.leftover <|> leftoverFault? i with
  | some fault => throw fault
  | none => return a

end Reader

end RequestGroups.Grammar
