import ModuleBuild.Shell.Command

/-!
# The text of a script

A script is read from its beginning to its end. What is left to be read goes along with the number
of its line, which is needed where something is said about it.

## Main definitions

* `Shell.Token` — a word, an operator or the end of a line
* `Shell.Source`, `Shell.Source.ofText` — what is left of a script, and the whole of it
* `Shell.Reader`, `Shell.Flaw` — reads something at the front, or says what is wrong there
* `Shell.Reader.takeRun`, `Shell.Reader.skipBlanks` — read characters

## Implementation notes

A name that stands for a text is replaced in the script as soon as it is read. It is not replaced
again inside of that text.

The text of a redirection stands below the line that asks for it. It is taken out of the script as
soon as it is asked for; its lines are counted when the line ends.
-/

namespace ModuleBuild

namespace Shell

/-- What is done to a stream. -/
inductive Direction where
  /-- It goes to a file or comes from it. -/
  | file (opening : System.Opening)
  /-- It goes where another stream goes. -/
  | copy
  /-- It comes from the text below, perhaps without the tabs in front of its lines. -/
  | text (untabbed : Bool)

/-- A piece of a script. -/
inductive Token where
  /-- A word. -/
  | word (w : Word)
  /-- An operator between commands or around them. -/
  | operator (text : String)
  /-- The sign that a stream of a command is to be redirected. -/
  | redirect (stream : Nat) (direction : Direction)
  /-- The end of a line. -/
  | newline
  /-- The end of the script. -/
  | finished

/-- Words with a meaning at the start of a command. -/
def keywords : List String :=
  ["!", "case", "do", "done", "elif", "else", "esac", "fi", "for", "if", "in", "then", "until",
    "while", "\x7b", "\x7d"]

namespace Token

/-- Whether a piece is an operator or a plain word. -/
def isText (text : String) : Token → Bool
  | operator o => o == text
  | word w => plainText? w == some text
  | _ => false

/-- Whether a piece is an operator. -/
def isOperator (text : String) : Token → Bool
  | operator o => o == text
  | _ => false

/-- Whether a piece is the end of a line. -/
def isNewline : Token → Bool
  | newline => true
  | _ => false

/-- The name of a piece where it is out of place. -/
def shown : Token → String
  | operator text => "\"" ++ text ++ "\""
  | redirect .. => "redirection"
  | newline => "newline"
  | finished => "end of file"
  | word w =>
    match plainText? w with
    | some text => if text ∈ keywords then "\"" ++ text ++ "\"" else "word"
    | none => "word"

end Token

/-- A text that stands in a script for a name. -/
structure Replacement where
  /-- The name. -/
  name : String
  /-- How many characters of the script are left behind the text. -/
  behind : Nat
  /-- Whether the text ends in a blank, so that the next word may be a name that stands for a text,
  too. -/
  widens : Bool

/-- What is left of a script. -/
structure Source where
  /-- The characters. -/
  rest : List Char
  /-- The number of the line they begin on. -/
  line : Nat := 1
  /-- How many lines below this one have been read. -/
  below : Nat := 0
  /-- A piece that has been read and not been used. -/
  held : Option Token := none
  /-- Whether the characters are all of the commands whose output is asked for, so that no
  parenthesis has to end them. -/
  isWhole : Bool := false
  /-- Names, and the texts that they stand for at the start of a command. -/
  aliases : List (String × String) := []
  /-- The texts that are being read instead of their names. -/
  replaced : List Replacement := []
  /-- Whether the piece that is held may be a name that stands for a text wherever it is. -/
  widened : Bool := false
  /-- Whether the lines can be shown as they are read. -/
  isShown : Bool := false
  /-- A number that is greater than that of the pieces. -/
  limit : Nat := rest.length + 2

/-- The script that is a text of bytes. Zeros count for nothing. -/
def Source.ofText (text : String) : Source := { rest := text.toList.filter (· ≠ '\x00') }

/-- The script that is another text, with the same names that stand for texts. -/
def Source.withText (s : Source) (rest : List Char) (line : Nat) : Source :=
  { rest, line, aliases := s.aliases }

/-- What is wrong with a script. -/
structure Flaw where
  /-- The line. -/
  line : Nat
  /-- What is said about it. -/
  message : String
  deriving DecidableEq

/-- A reader of something at the front of a script. -/
abbrev Reader (α : Type) := StateT Source (Except Flaw) α

namespace Reader

/-- Says that a script is wrong here. -/
def refuse {α : Type} (message : String) : Reader α := do
  throw ⟨(← get).line, "Syntax error: " ++ message⟩

/-- Goes on behind some characters of one line. -/
def moveTo (rest : List Char) : Reader Unit := modify fun s => { s with rest }

/-- Counts the end of a line. -/
def endLine : Reader Unit := modify fun s => { s with line := s.line + 1 + s.below, below := 0 }

/-- Takes the characters up to the first one that is not of a kind. None of them ends a line. -/
def takeRun (p : Char → Bool) : Reader (List Char) := do
  let s ← get
  let rest := s.rest.dropWhile p
  let run := s.rest.takeWhile p
  set { s with rest }
  return run

/-- What is left behind blanks and comments, and how many lines have been joined on the way. -/
def behindBlanks : List Char → List Char × Nat
  | ' ' :: rest => behindBlanks rest
  | '\t' :: rest => behindBlanks rest
  | '\\' :: '\n' :: rest =>
    let (rest, lines) := behindBlanks rest
    (rest, lines + 1)
  | '#' :: rest => (rest.dropWhile (· ≠ '\n'), 0)
  | rest => (rest, 0)

/-- Passes over blanks and comments. -/
def skipBlanks : Reader Unit := modify fun s =>
  let (rest, lines) := behindBlanks s.rest
  { s with rest, line := s.line + lines }

end Reader

end Shell

end ModuleBuild
