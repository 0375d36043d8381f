import RequestGroups.Text.Hex
import RequestGroups.Text.Printable

/-! # Quoted text

Literals that hold text, read and written.

* `Quoted.scan` reads the contents of a quoted literal up to its closing quote, escapes included,
  and gives back the value and what follows the quote; `Quoted.scanRaw` does so for raw literals,
  which have no escapes and end at a quote with a given number of hashes;
* `Quoted.read?` is the value of a string literal and the suffix after it;
* `Quoted.write` writes the literal of a string, with an escape for every character that is not
  printable. -/

namespace RequestGroups.Text.Quoted

/-! ### Escapes -/

/-- What a kind of literal admits between its quotes. -/
structure Rules where
  /-- Whether `\x` may go beyond ASCII. -/
  highBytes : Bool
  /-- Whether code points may be written in braces after `\u`. -/
  codePoints : Bool
  /-- Whether a backslash before a line break removes the break and the blanks after it. -/
  lineBreaks : Bool
  /-- Whether the character of code zero may occur. -/
  nul : Bool
  /-- Whether characters beyond ASCII may occur. -/
  beyondAscii : Bool

/-- The rules of string literals. -/
def Rules.string : Rules := ⟨false, true, true, true, true⟩

/-- The rules of byte string literals. -/
def Rules.bytes : Rules := ⟨true, false, true, true, false⟩

/-- The rules of literals of strings that end with a zero byte. -/
def Rules.zeroEnded : Rules := ⟨true, true, true, false, true⟩

/-- The rules of character literals. -/
def Rules.character : Rules := ⟨false, true, false, true, true⟩

/-- The rules of byte literals. -/
def Rules.byte : Rules := ⟨true, false, false, true, false⟩

/-- Whether the character may stand in a literal as itself. -/
def Rules.admits (k : Rules) (c : Char) : Bool :=
  (k.nul || c != '\x00') && (k.beyondAscii || c.toNat < 128)

/-- The code point written in braces: one to six digits, with underscores anywhere but first. -/
def codePoint? (cs : List Char) : Option Char :=
  let ds := cs.filterMap Hex.digit?
  if cs.head? = some '_' ∨ ds.isEmpty ∨ 6 < ds.length
      ∨ !cs.all (fun c => c == '_' || (Hex.digit? c).isSome) then none
  else if h : (Hex.value cs).isValidChar then some (Char.ofNatAux (Hex.value cs) h)
  else none

/-- Drops blanks and line breaks; a carriage return has to come with a line feed, and the text
must not end. -/
def skipBlanks : List Char → Option (List Char)
  | '\r' :: '\n' :: rest => skipBlanks rest
  | '\r' :: _ => none
  | ' ' :: rest => skipBlanks rest
  | '\t' :: rest => skipBlanks rest
  | '\n' :: rest => skipBlanks rest
  | [] => none
  | rest => some rest

/-- Reads what follows a backslash: the character that is meant, if any, and the rest. -/
def escape (k : Rules) : List Char → Option (Option Char × List Char)
  | 'n' :: rest => some (some '\n', rest)
  | 'r' :: rest => some (some '\r', rest)
  | 't' :: rest => some (some '\t', rest)
  | '\\' :: rest => some (some '\\', rest)
  | '\'' :: rest => some (some '\'', rest)
  | '"' :: rest => some (some '"', rest)
  | '0' :: rest => if k.nul then some (some '\x00', rest) else none
  | 'x' :: a :: b :: rest =>
    match Hex.digit? a, Hex.digit? b with
    | some high, some low =>
      let n := 16 * high + low
      if (k.highBytes || n < 128) && (k.nul || n != 0) then some (some (Char.ofNat n), rest)
      else none
    | _, _ => none
  | 'u' :: '\x7b' :: rest =>
    if k.codePoints then
      match codePoint? (rest.takeWhile (· != '\x7d')), rest.dropWhile (· != '\x7d') with
      | some c, _ :: after => if k.nul || c != '\x00' then some (some c, after) else none
      | _, _ => none
    else none
  | '\n' :: rest => if k.lineBreaks then (skipBlanks rest).map fun r => (none, r) else none
  | '\r' :: '\n' :: rest => if k.lineBreaks then (skipBlanks rest).map fun r => (none, r) else none
  | _ => none

theorem length_le_of_skipBlanks {cs r : List Char} (h : skipBlanks cs = some r) :
    r.length ≤ cs.length := by
  fun_induction skipBlanks cs <;> simp_all <;> omega

theorem length_lt_of_escape {k : Rules} {cs r : List Char} {v : Option Char}
    (h : escape k cs = some (v, r)) : r.length < cs.length := by
  unfold escape at h
  split at h
  case h_7 => split at h <;> simp_all
  case h_8 => split at h <;> grind
  case h_9 rest =>
    have := (List.dropWhile_suffix (· != '\x7d') : rest.dropWhile _ <:+ rest).length_le
    grind
  case h_10 => grind [→ length_le_of_skipBlanks, Option.map_eq_some_iff]
  case h_11 => grind [→ length_le_of_skipBlanks, Option.map_eq_some_iff]
  case h_12 => simp at h
  all_goals simp_all

/-! ### Contents up to the closing quote -/

/-- Reads the contents of a literal up to its closing quote. A line break may be written with a
carriage return, which is dropped; a carriage return elsewhere is an error. -/
def scan (k : Rules) (cs : List Char) : Option (List Char × List Char) :=
  match cs with
  | [] => none
  | '"' :: rest => some ([], rest)
  | '\r' :: '\n' :: rest => (scan k rest).map fun (v, r) => ('\n' :: v, r)
  | '\r' :: _ => none
  | '\\' :: rest =>
    match h : escape k rest with
    | some (c, after) =>
      have := length_lt_of_escape h
      (scan k after).map fun (v, r) => (c.toList ++ v, r)
    | none => none
  | c :: rest => if k.admits c then (scan k rest).map fun (v, r) => (c :: v, r) else none
termination_by cs.length

/-- Reads the contents of a raw literal up to a quote with the given number of hashes. -/
def scanRaw (k : Rules) (hashes : Nat) : List Char → Option (List Char × List Char)
  | [] => none
  | '\r' :: '\n' :: rest => (scanRaw k hashes rest).map fun (v, r) => ('\r' :: '\n' :: v, r)
  | '\r' :: _ => none
  | c :: rest =>
    if c = '"' ∧ rest.take hashes = List.replicate hashes '#' then some ([], rest.drop hashes)
    else if k.admits c then (scanRaw k hashes rest).map fun (v, r) => (c :: v, r)
    else none

/-- The value of a string literal, plain or raw, and the suffix after it. -/
def read? (literal : String) : Option (String × String) :=
  match literal.toList with
  | '"' :: rest => (scan .string rest).map fun (v, r) => (.ofList v, .ofList r)
  | 'r' :: rest =>
    let hashes := (rest.takeWhile (· == '#')).length
    match rest.drop hashes with
    | '"' :: contents => (scanRaw .string hashes contents).map fun (v, r) => (.ofList v, .ofList r)
    | _ => none
  | _ => none

/-! ### Writing -/

/-- A code point in braces after `\u`. -/
def writeCodePoint (c : Char) : List Char :=
  '\\' :: 'u' :: '\x7b' :: Hex.digits c.toNat ++ ['\x7d']

/-- A character as it is shown between quotes. -/
def writeChar (c : Char) : List Char :=
  if c = '\x00' then ['\\', '0']
  else if c = '\t' then ['\\', 't']
  else if c = '\r' then ['\\', 'r']
  else if c = '\n' then ['\\', 'n']
  else if c = '\\' then ['\\', '\\']
  else if c = '"' then ['\\', '"']
  else if isPrintable c then [c]
  else writeCodePoint c

/-- The characters of a literal's contents. A zero in front of an octal digit is written `\x00`, so
that no reader takes the two for one number. -/
def writeContents : List Char → List Char
  | [] => []
  | c :: rest =>
    let octalFollows := rest.head?.any fun d => '0' ≤ d && d ≤ '7'
    (if c = '\x00' ∧ octalFollows then ['\\', 'x', '0', '0'] else writeChar c) ++ writeContents rest

/-- The string literal of a text. -/
def write (text : String) : String :=
  .ofList ('"' :: writeContents text.toList ++ ['"'])

/-- A text between quotes as it is shown to a programmer. -/
def display (text : String) : String :=
  .ofList ('"' :: text.toList.flatMap writeChar ++ ['"'])

end RequestGroups.Text.Quoted
