import ModuleBuild.Process.System

/-!
# The commands of a script

A script is a list of commands. A command runs a program, a function or a built-in tool, or it is
put together from other commands. The words of a command hold characters and what is to be put in
their place: values, the output of further commands, and sums.

## Main definitions

* `Shell.Part`, `Shell.Word` — words as they are written
* `Shell.Redirect` — where a stream goes or comes from
* `Shell.Command` — a command
-/

namespace ModuleBuild

namespace Shell

/-- What is done to the value of a parameter, by means of a word. -/
inductive Change where
  /-- Nothing. -/
  | none
  /-- The word stands in for a missing value, or also for an empty one. -/
  | otherwise (orEmpty : Bool)
  /-- The word becomes the value if it is missing, or also if it is empty. -/
  | assign (orEmpty : Bool)
  /-- The script ends with the word as a message if the value is missing, or also if it is empty. -/
  | require (orEmpty : Bool)
  /-- The word stands in for a value, or only for one that is not empty. -/
  | instead (orEmpty : Bool)
  /-- A part at the front that the word describes is dropped. -/
  | dropFront (longest : Bool)
  /-- A part at the end that the word describes is dropped. -/
  | dropEnd (longest : Bool)
  /-- The number of bytes is taken. -/
  | length
  /-- Something that nobody knows how to do. -/
  | unknown
  deriving DecidableEq

/-- Whether the word of a change is a pattern, in which quotes around the parameter count for
nothing. -/
def Change.takesPattern : Change → Bool
  | dropFront _ => true
  | dropEnd _ => true
  | _ => false

mutual

/-- A part of a word. -/
inductive Part where
  /-- A character, and whether quotes take away any meaning it has. -/
  | char (c : Char) (quoted : Bool)
  /-- A pair of quotes, which makes a text even if it is empty. -/
  | quotes
  /-- A parameter, whether it stands in quotes, and what is done to its value. -/
  | parameter (name : String) (quoted : Bool) (change : Change) (word : List Part)
  /-- What a command writes to its output. -/
  | output (quoted : Bool) (command : Command)
  /-- The value of a sum. -/
  | sum (quoted : Bool) (terms : List Part)

/-- A redirection of a stream. -/
inductive Redirect where
  /-- To or from a file. -/
  | file (stream : Nat) (opening : System.Opening) (target : List Part)
  /-- To where another stream goes. -/
  | copy (stream : Nat) (target : List Part)
  /-- From a text. -/
  | text (stream : Nat) (content : List Part)

/-- A command. -/
inductive Command where
  /-- Variables that are set, and a program, a function or a built-in tool that is run. -/
  | simple (line : Nat) (assignments : List (String × List Part)) (words : List (List Part))
      (redirects : List Redirect)
  /-- A function that is defined. -/
  | define (name : String) (body : Command)
  /-- Commands one after the other. -/
  | sequence (commands : List Command)
  /-- Commands each of which is run if the one before it has ended well, or if it has not. -/
  | joined (first : Command) (rest : List (Bool × Command))
  /-- A command with its success reversed. -/
  | negate (command : Command)
  /-- Commands each of which reads what the one before it writes. -/
  | pipeline (commands : List Command)
  /-- A command that nobody waits for. -/
  | behind (line : Nat) (command : Command) (redirects : List Redirect)
  /-- A command that runs on its own. -/
  | apart (line : Nat) (command : Command) (redirects : List Redirect)
  /-- One of two commands, as a third one ends. -/
  | choose (condition yes no : Command)
  /-- The command of the first patterns that describe a word. -/
  | select (line : Nat) (subject : List Part) (arms : List (List (List Part) × Command))
  /-- A command for each word, or for each argument. -/
  | forEach (line : Nat) (name : String) (items : Option (List (List Part))) (body : Command)
  /-- A command that is repeated while another one ends well, or until it does. -/
  | repeated (untilWell : Bool) (condition body : Command)
  /-- A command whose streams are redirected. -/
  | redirected (line : Nat) (command : Command) (redirects : List Redirect)

end

/-- A word. -/
abbrev Word := List Part

/-- The command that does nothing and ends well. -/
def Command.done : Command := .sequence []

instance : Inhabited Command := ⟨.done⟩

/-- The character that a part is, unless it is quoted. -/
def Part.plainChar? : Part → Option Char
  | .char c false => some c
  | _ => none

/-- The text that a word is, if nothing in it is quoted or to be replaced. -/
def plainText? (w : Word) : Option String := (w.mapM Part.plainChar?).map String.ofList

/-- A character that may begin the name of a variable. -/
def beginsName (c : Char) : Bool := c.isAlpha || c == '_'

/-- A character that may stand in the name of a variable. -/
def inName (c : Char) : Bool := c.isAlphanum || c == '_'

/-- Whether a text is the name of a variable. -/
def isName (s : String) : Bool :=
  match s.toList with
  | c :: cs => beginsName c && cs.all inName
  | [] => false

/-- The variable that a word sets, with its value. -/
def assignment? (w : Word) : Option (String × Word) :=
  let chars := (w.takeWhile fun part => part.plainChar?.any inName).filterMap Part.plainChar?
  match chars.head?, w.drop chars.length with
  | some c, .char '=' false :: value =>
    if beginsName c then some (String.ofList chars, value) else none
  | _, _ => none

end Shell

end ModuleBuild
