import ModuleBuild.Text.Unprintable

/-!
# Quoted texts

Messages show a text that was found in the wrong place between quotes. A quote and a backslash in
it are preceded by a backslash, the common controls have letters, and every other character that
cannot be shown is spelled by its number.

## Main definitions

* `Text.quoted` — a text between quotes
-/

namespace ModuleBuild

namespace Text

/-- The spelling of one character between quotes. -/
def quotedChar (c : Char) : List Char :=
  if c = '\x00' then ['\\', '0']
  else if c = '\t' then ['\\', 't']
  else if c = '\n' then ['\\', 'n']
  else if c = '\r' then ['\\', 'r']
  else if c = '"' then ['\\', '"']
  else if c = '\\' then ['\\', '\\']
  else if isUnprintable c then ['\\', 'u', '\x7b'] ++ Nat.toDigits 16 c.toNat ++ ['\x7d']
  else [c]

/-- A text between quotes. -/
def quoted (s : String) : String :=
  String.ofList ('"' :: s.toList.flatMap quotedChar ++ ['"'])

end Text

end ModuleBuild
