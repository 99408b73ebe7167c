import ModuleBuild.Shell.Tool.Basic
import ModuleBuild.Text.Format

/-!
# Built-in tools that write

`echo` writes its arguments with blanks between them, `printf` writes them as a format says. Both
know escapes, which begin with a backslash.

## Main definitions

* `Shell.Tool.unescape` — a text with its escapes replaced
* `Shell.Tool.echo`, `Shell.Tool.printf` — the tools
-/

namespace ModuleBuild

namespace Shell

namespace Tool

/-! ### Escapes -/

/-- The byte that up to three digits in base eight at the front spell, and what is left. -/
def octalByte (cs : List Char) : Char × List Char :=
  let digits := (cs.take 3).takeWhile isOctal
  let n := digits.foldl (fun n c => 8 * n + (c.toNat - 48)) 0
  (Char.ofNat (n % 256), cs.drop digits.length)

/-- What stands for an escape behind its backslash, and what is left. A backslash in front of
anything else stands for itself. -/
def escapeAt (cs : List Char) : Char × List Char :=
  match cs with
  | 'a' :: rest => ('\x07', rest)
  | 'b' :: rest => ('\x08', rest)
  | 't' :: rest => ('\t', rest)
  | 'n' :: rest => ('\n', rest)
  | 'v' :: rest => ('\x0b', rest)
  | 'f' :: rest => ('\x0c', rest)
  | 'r' :: rest => ('\r', rest)
  | '\\' :: rest => ('\\', rest)
  | c :: _ => if isOctal c then octalByte cs else ('\\', cs)
  | [] => ('\\', cs)

/-- A text with its escapes replaced, and whether an escape says that nothing follows; `fuel` bounds
the number of characters. -/
def unescapeFrom : Nat → List Char → List Char × Bool
  | 0, _ => ([], false)
  | _, [] => ([], false)
  | _ + 1, '\\' :: 'c' :: _ => ([], true)
  | fuel + 1, '\\' :: rest =>
    let (c, rest) :=
      match rest with
      | '0' :: digits => octalByte digits
      | _ => escapeAt rest
    let (more, stops) := unescapeFrom fuel rest
    (c :: more, stops)
  | fuel + 1, c :: rest =>
    let (more, stops) := unescapeFrom fuel rest
    (c :: more, stops)

/-- A text with its escapes replaced, and whether an escape says that nothing follows. -/
def unescape (s : String) : String × Bool :=
  let (cs, stops) := unescapeFrom s.length s.toList
  (String.ofList cs, stops)

/-! ### Writing -/

/-- Writes its arguments with blanks between them and a line end behind them. -/
def echo (arguments : List String) : Act Nat := do
  let (arguments, ending) : List String × String :=
    match arguments with
    | "-n" :: rest => (rest, "")
    | _ => (arguments, "\n")
  let (text, stops) := unescape (" ".intercalate arguments)
  write 0 (text ++ if stops then "" else ending)

/-! ### Formats -/

/-- What a format means in a script. -/
def formatRules : Format.Rules :=
  { escape := fun cs =>
      let (c, rest) := escapeAt cs
      some (String.singleton c, rest)
    expand := unescape
    fraction := Format.doubleFraction
    texts := [] }

/-- Why an argument does not fit, in the words of a shell. -/
def misfitReason : Format.Misfit → String
  | .notNumeric => "expected numeric value"
  | .unfinished => "not completely converted"
  | .outOfRange => "Numerical result out of range"

/-- Writes its arguments as a format says. What it has to say about them comes first. -/
def printf (arguments : List String) : Act Nat := do
  match ← withoutOptions arguments with
  | [] => fault "usage: printf format [arg ...]"
  | format :: arguments =>
    let (pieces, _, finish) := Format.apply formatRules format arguments
    let mut status := 0
    for piece in pieces do
      if let .misfit why argument := piece then
        complain (argument ++ ": " ++ misfitReason why)
        status := 1
    let written ← write status (Format.textOf pieces)
    match finish with
    | .unknown spelling => fault (spelling ++ ": invalid directive")
    | .unclosed _ => fault "missing format character"
    | _ => return written

end Tool

end Shell

end ModuleBuild
