import ModuleBuild.Digest.Hex
import ModuleBuild.Json.Numeral

/-!
# JSON values and their text

A value is written in two layouts: on one line without blanks, or with every part on a line of its
own, indented by two spaces for each level.

## Main definitions

* `Json` — the values
* `Json.quote` — a text between quotes
* `Json.compact`, `Json.pretty` — the two layouts
-/

namespace ModuleBuild

/-- A value of a JSON document. -/
inductive Json where
  /-- No value. -/
  | null
  /-- A truth value. -/
  | bool (b : Bool)
  /-- A number. -/
  | number (n : Json.Numeral)
  /-- A text. -/
  | text (s : String)
  /-- A list. -/
  | list (items : List Json)
  /-- An object, its keys in order. -/
  | object (fields : List (String × Json))

namespace Json

/-- A list of texts. -/
def texts (l : List String) : Json := .list (l.map .text)

/-- The spelling of one character between quotes. Only quotes, backslashes and controls are
escaped. -/
def quoteChar (c : Char) : List Char :=
  if c = '"' then ['\\', '"']
  else if c = '\\' then ['\\', '\\']
  else if c = '\x08' then ['\\', 'b']
  else if c = '\t' then ['\\', 't']
  else if c = '\n' then ['\\', 'n']
  else if c = '\x0c' then ['\\', 'f']
  else if c = '\r' then ['\\', 'r']
  else if c.toNat < 0x20 then
    ['\\', 'u', '0', '0', Hex.digit (c.toNat / 16), Hex.digit (c.toNat % 16)]
  else [c]

/-- A text between quotes. -/
def quote (s : String) : List Char := '"' :: s.toList.flatMap quoteChar ++ ['"']

/-! ### On one line -/

mutual

/-- A value on one line. -/
def compactChars : Json → List Char
  | null => ['n', 'u', 'l', 'l']
  | bool true => ['t', 'r', 'u', 'e']
  | bool false => ['f', 'a', 'l', 's', 'e']
  | number n => n.text
  | text s => quote s
  | list items => '[' :: compactItems items ++ [']']
  | object fields => '\x7b' :: compactFields fields ++ ['\x7d']

/-- The items of a list, with commas between them. -/
def compactItems : List Json → List Char
  | [] => []
  | [v] => compactChars v
  | v :: rest => compactChars v ++ ',' :: compactItems rest

/-- The fields of an object, with commas between them. -/
def compactFields : List (String × Json) → List Char
  | [] => []
  | [(k, v)] => quote k ++ ':' :: compactChars v
  | (k, v) :: rest => quote k ++ ':' :: compactChars v ++ ',' :: compactFields rest

end

/-- The text of a value on one line. -/
def compact (v : Json) : String := String.ofList (compactChars v)

/-! ### On many lines -/

/-- A line end and the blanks of a level. -/
def newLine (level : Nat) : List Char := '\n' :: List.replicate (2 * level) ' '

mutual

/-- A value with its parts on lines of their own, at a level. -/
def prettyChars (level : Nat) : Json → List Char
  | null => ['n', 'u', 'l', 'l']
  | bool true => ['t', 'r', 'u', 'e']
  | bool false => ['f', 'a', 'l', 's', 'e']
  | number n => n.text
  | text s => quote s
  | list [] => ['[', ']']
  | list items => '[' :: prettyItems (level + 1) items ++ newLine level ++ [']']
  | object [] => ['\x7b', '\x7d']
  | object fields => '\x7b' :: prettyFields (level + 1) fields ++ newLine level ++ ['\x7d']

/-- The items of a list, each on lines of its own. -/
def prettyItems (level : Nat) : List Json → List Char
  | [] => []
  | [v] => newLine level ++ prettyChars level v
  | v :: rest => newLine level ++ prettyChars level v ++ ',' :: prettyItems level rest

/-- The fields of an object, each on lines of its own. -/
def prettyFields (level : Nat) : List (String × Json) → List Char
  | [] => []
  | [(k, v)] => newLine level ++ quote k ++ ':' :: ' ' :: prettyChars level v
  | (k, v) :: rest =>
    newLine level ++ quote k ++ ':' :: ' ' :: prettyChars level v ++ ',' :: prettyFields level rest

end

/-- The text of a value on many lines. -/
def pretty (v : Json) : String := String.ofList (prettyChars 0 v)

end Json

end ModuleBuild
