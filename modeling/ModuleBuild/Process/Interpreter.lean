import ModuleBuild.Text.Utf8

/-!
# Interpreters of scripts

A file that may be run and begins with `#!` names the program that is to read it, perhaps with an
argument. Only the beginning of the file is looked at, so a name that is too long is none.

## Main definitions

* `Interpreter` — the program that a script names
* `Interpreter.ofBytes?` — that of a file
-/

namespace ModuleBuild

/-- The program that a script names. -/
structure Interpreter where
  /-- Its path. -/
  path : Bytes
  /-- The argument that it is given. -/
  argument : Option Bytes
  deriving DecidableEq

namespace Interpreter

/-- How many bytes at the beginning of a file are looked at. -/
def window : Nat := 256

/-- Whether a byte is a blank. -/
def isBlank (b : UInt8) : Bool := b == 32 || b == 9

/-- Whether a byte ends a name. -/
def endsName (b : UInt8) : Bool := isBlank b || b == 0

/-- The line behind the mark of a script, `padded` being what is looked at with zeros behind it.
Where no line ends, the end of the name must be there to be seen. -/
def line? (padded : Bytes) : Option Bytes :=
  let line := padded.takeWhile fun b => b != 10 && b != 0
  if (padded.drop line.length).head? == some 10 then some (line.drop 2)
  else
    let rest := (padded.drop 2).dropWhile isBlank
    if rest.any endsName then some ((padded.drop 2).dropLast) else none

/-- The program that a line names. -/
def ofLine? (line : Bytes) : Option Interpreter :=
  let line := (line.reverse.dropWhile isBlank).reverse.dropWhile isBlank
  if line.isEmpty then none
  else
    let path := line.takeWhile (!endsName ·)
    let rest := line.drop path.length
    let argument := (rest.dropWhile isBlank).takeWhile (· != 0)
    let hasArgument := rest.head?.any isBlank
    some { path, argument := if hasArgument then some argument else none }

/-- The program that a file names. -/
def ofBytes? (content : Bytes) : Option Interpreter :=
  let seen := content.take window
  if seen.take 2 == [35, 33] then
    (line? (seen ++ List.replicate (window - seen.length) 0)).bind ofLine?
  else none

end Interpreter

end ModuleBuild
