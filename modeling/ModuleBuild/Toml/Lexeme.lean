import ModuleBuild.Digest.Hex

/-!
# The words of a TOML document

Blanks, comments, keys and texts. Each function takes what it reads from the front of a list of
characters and gives the rest back; where it cannot read anything, there is no result. There is only
one kind of failure, since a document with any mistake in it is refused as a whole.

## Main definitions

* `Toml.skipBlanks`, `Toml.skipTrivia`, `Toml.lineEnd` — what stands between words
* `Toml.text` — a text in one of the four kinds of quotes
* `Toml.key` — a key, with its parts between dots
-/

namespace ModuleBuild

namespace Toml

/-! ### Between words -/

/-- A blank inside a line. -/
def isBlank (c : Char) : Bool := c == ' ' || c == '\t'

/-- What a comment may hold: no control but the tab. -/
def isCommentChar (c : Char) : Bool := c == '\t' || (0x20 ≤ c.toNat && c.toNat != 0x7F)

/-- The characters after the blanks at the front. -/
def skipBlanks (cs : List Char) : List Char := cs.dropWhile isBlank

/-- The characters after blanks, comments and line ends. Every comment ends with its line. -/
def skipTrivia : Bool → List Char → Option (List Char)
  | false, [] => some []
  | true, [] => none
  | _, '\n' :: rest => skipTrivia false rest
  | _, '\r' :: '\n' :: rest => skipTrivia false rest
  | true, c :: rest => if isCommentChar c then skipTrivia true rest else none
  | false, c :: rest =>
    if isBlank c then skipTrivia false rest
    else if c = '#' then skipTrivia true rest
    else some (c :: rest)

/-- The characters after a comment. -/
def skipComment (cs : List Char) : List Char :=
  match cs with
  | '#' :: rest => rest.dropWhile isCommentChar
  | _ => cs

/-- The characters of the next line; nothing but blanks and a comment may stand before it. -/
def lineEnd (cs : List Char) : Option (List Char) :=
  match skipComment (skipBlanks cs) with
  | [] => some []
  | '\n' :: rest => some rest
  | '\r' :: '\n' :: rest => some rest
  | _ => none

/-! ### Texts -/

/-- What may stand in a text as it is, its quotes and backslashes aside. -/
def isTextChar (c : Char) : Bool := c == '\t' || (0x20 ≤ c.toNat && c.toNat != 0x7F)

/-- The character with a number, unless it is none. -/
def charOf? (n : Nat) : Option Char := if n.isValidChar then some (Char.ofNat n) else none

/-- The character of an escape, and what follows it. -/
def escape : List Char → Option (Char × List Char)
  | 'b' :: rest => some ('\x08', rest)
  | 't' :: rest => some ('\t', rest)
  | 'n' :: rest => some ('\n', rest)
  | 'f' :: rest => some ('\x0c', rest)
  | 'r' :: rest => some ('\r', rest)
  | '"' :: rest => some ('"', rest)
  | '\\' :: rest => some ('\\', rest)
  | 'u' :: rest => numbered 4 rest
  | 'U' :: rest => numbered 8 rest
  | _ => none
where
  /-- A character by the digits of its number. -/
  numbered (count : Nat) (cs : List Char) : Option (Char × List Char) := do
    if (cs.take count).length < count then none
    let c ← charOf? (← Hex.number? (cs.take count))
    return (c, cs.drop count)

/-- The rest of a text on one line, up to its quote; `fuel` bounds the characters. -/
def lineText (quote : Char) : Nat → List Char → List Char → Option (String × List Char)
  | 0, _, _ => none
  | _, _, [] => none
  | fuel + 1, read, c :: rest =>
    if c = quote then some (String.ofList read.reverse, rest)
    else if c = '\\' ∧ quote = '"' then do
      let (c, rest) ← escape rest
      lineText quote fuel (c :: read) rest
    else if isTextChar c then lineText quote fuel (c :: read) rest
    else none

/-- The characters after a backslash at the end of a line and all blanks and line ends after it. -/
def foldedLine (cs : List Char) : Option (List Char) :=
  match skipBlanks cs with
  | '\n' :: rest => some (skipFold rest)
  | '\r' :: '\n' :: rest => some (skipFold rest)
  | _ => none
where
  /-- The characters after blanks and line ends. -/
  skipFold : List Char → List Char
    | '\n' :: rest => skipFold rest
    | '\r' :: '\n' :: rest => skipFold rest
    | c :: rest => if isBlank c then skipFold rest else c :: rest
    | [] => []

/-- The rest of a text on many lines, up to its three quotes. Up to two more quotes may stand right
before these. A carriage return before a line feed is not part of the text. -/
def blockText (quote : Char) : Nat → List Char → List Char → Option (String × List Char)
  | 0, _, _ => none
  | _, _, [] => none
  | fuel + 1, read, c :: rest =>
    if c = quote then
      let more := rest.takeWhile (· = quote)
      if more.length < 2 then blockText quote fuel (c :: read) rest
      else
        let inside := min (more.length - 2) 2
        some (String.ofList (List.replicate inside quote ++ read).reverse, rest.drop (inside + 2))
    else if c = '\\' ∧ quote = '"' then
      match foldedLine rest with
      | some rest => blockText quote fuel read rest
      | none => do
        let (c, rest) ← escape rest
        blockText quote fuel (c :: read) rest
    else if c = '\n' then blockText quote fuel (c :: read) rest
    else if c = '\r' then
      match rest with
      | '\n' :: rest => blockText quote fuel ('\n' :: read) rest
      | _ => none
    else if isTextChar c then blockText quote fuel (c :: read) rest
    else none

/-- The text after three quotes; a line end right behind them is not part of it. -/
def blockStart (quote : Char) (cs : List Char) : Option (String × List Char) :=
  match cs with
  | '\n' :: rest => blockText quote cs.length [] rest
  | '\r' :: '\n' :: rest => blockText quote cs.length [] rest
  | _ => blockText quote cs.length [] cs

/-- A text on one line, with its quotes. -/
def shortText (cs : List Char) : Option (String × List Char) :=
  match cs with
  | c :: rest => if c = '"' ∨ c = '\x27' then lineText c cs.length [] rest else none
  | [] => none

/-- A text in any kind of quotes. -/
def text (cs : List Char) : Option (String × List Char) :=
  match cs with
  | '"' :: '"' :: '"' :: rest => blockStart '"' rest
  | '\x27' :: '\x27' :: '\x27' :: rest => blockStart '\x27' rest
  | _ => shortText cs

/-! ### Keys -/

/-- What may stand in a key without quotes. -/
def isKeyChar (c : Char) : Bool := c.isAlphanum || c == '_' || c == '-'

/-- One part of a key. -/
def keyPart (cs : List Char) : Option (String × List Char) :=
  match shortText cs with
  | some part => some part
  | none =>
    match cs.takeWhile isKeyChar with
    | [] => none
    | name => some (String.ofList name, cs.dropWhile isKeyChar)

/-- The parts of a key between dots; `fuel` bounds their number. -/
def keyParts : Nat → List Char → Option (List String × List Char)
  | 0, _ => none
  | fuel + 1, cs => do
    let (part, rest) ← keyPart (skipBlanks cs)
    match skipBlanks rest with
    | '.' :: rest =>
      let (parts, rest) ← keyParts fuel rest
      return (part :: parts, rest)
    | rest => return ([part], rest)

/-- No key has this many parts, and no value is this deep. -/
def depthLimit : Nat := 80

/-- A key with its parts, and the blanks around it. -/
def key (cs : List Char) : Option (List String × List Char) := keyParts (depthLimit - 1) cs

end Toml

end ModuleBuild
