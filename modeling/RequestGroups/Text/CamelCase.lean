import RequestGroups.Text.Case

/-! # Upper camel case

A name is cut into words at every character that is neither letter nor number, between a lower
case and an upper case letter (`fooBar`), and before the last of several upper case letters if a
lower case letter follows (`XMLHttp`). Each word is then written with a capital first letter and
small other letters, and the words are joined. -/

namespace RequestGroups.Text.CamelCase

/-! ### Words -/

/-- The case of the last letter of the word so far that has a case. -/
inductive Mode where
  | boundary
  | lower
  | upper
  deriving DecidableEq, Repr

/-- The mode after a character that does not end the word. -/
def Mode.after (mode : Mode) (c : Char) : Mode :=
  if isLowercase c then .lower else if isUppercase c then .upper else mode

/-- The words of a run of letters and numbers, where `word` holds the characters of the word that
is being read. -/
def wordsOfRun (mode : Mode) (word : List Char) : List Char → List (List Char)
  | [] => []
  | [c] => [word ++ [c]]
  | c :: next :: rest =>
    if mode.after c = .lower ∧ isUppercase next then
      (word ++ [c]) :: wordsOfRun .boundary [] (next :: rest)
    else if mode = .upper ∧ isUppercase c ∧ isLowercase next then
      word :: wordsOfRun .boundary [c] (next :: rest)
    else
      wordsOfRun (mode.after c) (word ++ [c]) (next :: rest)

/-- The runs of letters and numbers of a text, where `run` holds the characters of the run that is
being read. -/
def runs (run : List Char) : List Char → List (List Char)
  | [] => [run]
  | c :: rest => if isAlphanumeric c then runs (run ++ [c]) rest else run :: runs [] rest

/-- The words of a text. -/
def words (text : List Char) : List (List Char) :=
  (runs [] text).flatMap (wordsOfRun .boundary [])

/-! ### Capitals -/

/-- The lower case form of the characters of a word; a sigma at the end has a form of its own. -/
def lowerTail : List Char → List Char
  | [] => []
  | [c] => if c = 'Σ' then ['ς'] else lowerCase c
  | c :: rest => lowerCase c ++ lowerTail rest

/-- A word with a capital first letter and small other letters. -/
def capitalize : List Char → List Char
  | [] => []
  | c :: rest => upperCase c ++ lowerTail rest

end RequestGroups.Text.CamelCase

namespace RequestGroups.Text

/-- A name in upper camel case. -/
def camelCase (name : String) : String :=
  String.ofList ((CamelCase.words name.toList).flatMap CamelCase.capitalize)

end RequestGroups.Text
