import ModuleBuild.Toml.Document

/-!
# The grammar of TOML documents

Which texts are documents, and what their lines say. The grammar is that of TOML 1.0 and knows
nothing of readers: a document is put together from lines, a line from a statement between blanks
and a comment, a statement from keys and values, and these from quoted letters, marks and runs of
characters. Only what a single run stands for, which is a number, a date or a truth value, is told
by the function that reads it.

A value may be given in many ways: keys with and without quotes, texts in four kinds of quotes,
lists over many lines, tables in braces. Nothing here chooses between them.

## Depth

The reader refuses keys of eighty parts and values in eighty brackets, and so does the grammar. What
stands in brackets is spelled with one level less than the brackets.

## Main definitions

* `Toml.SpellsText`, `Toml.SpellsKey`, `Toml.SpellsScalar` — texts, keys, and runs
* `Toml.Part`, `Toml.Spells` — the parts of values
* `Toml.SpellsStatement`, `Toml.SpellsLines` — statements and lines
* `Toml.Document` — the texts whose lines say something
-/

namespace ModuleBuild

namespace Toml

/-! ### Between words -/

/-- Blanks inside a line, if any. -/
def IsBlanks (cs : List Char) : Prop := ∀ c ∈ cs, isBlank c = true

theorem isBlanks_nil : IsBlanks [] := by simp [IsBlanks]

theorem isBlanks_blank : IsBlanks [' '] := by simp [IsBlanks, isBlank]

/-- The end of a line. -/
inductive IsBreak : List Char → Prop where
  /-- A line feed. -/
  | feed : IsBreak ['\n']
  /-- A carriage return and a line feed. -/
  | pair : IsBreak ['\r', '\n']

/-- What may stand behind a statement on its line, or on a line of its own. -/
inductive IsLineTail : List Char → Prop where
  /-- Blanks, if any. -/
  | blanks {cs : List Char} (h : IsBlanks cs) : IsLineTail cs
  /-- Blanks and a comment. -/
  | comment {cs words : List Char} (h : IsBlanks cs)
      (hwords : ∀ c ∈ words, isCommentChar c = true) :
    IsLineTail (cs ++ '#' :: words)

/-- What may stand around the items of a list. Every comment ends with its line. -/
inductive IsTrivia : List Char → Prop where
  /-- Blanks, if any. -/
  | blanks {cs : List Char} (h : IsBlanks cs) : IsTrivia cs
  /-- The end of one line and what stands on the following ones. -/
  | line {cs ending rest : List Char} (h : IsLineTail cs) (hending : IsBreak ending)
    (hrest : IsTrivia rest) : IsTrivia (cs ++ (ending ++ rest))

/-! ### Texts -/

/-- The two kinds of quotes. -/
def IsQuote (quote : Char) : Prop := quote = '"' ∨ quote = '\x27'

/-- The characters that are written as a backslash and a letter. -/
def escapes : List (Char × Char) :=
  [('b', '\x08'), ('t', '\t'), ('n', '\n'), ('f', '\x0c'), ('r', '\r'), ('"', '"'), ('\\', '\\')]

/-- How a character is written behind a backslash. -/
inductive SpellsEscape : Char → List Char → Prop where
  /-- By a letter. -/
  | named {e c : Char} (h : (e, c) ∈ escapes) : SpellsEscape c [e]
  /-- By the four digits of its number. -/
  | four {n : Nat} {digits : List Char} (hlength : digits.length = 4)
    (h : Hex.number? digits = some n) (hn : n.isValidChar) :
    SpellsEscape (Char.ofNat n) ('u' :: digits)
  /-- By the eight digits of its number. -/
  | eight {n : Nat} {digits : List Char} (hlength : digits.length = 8)
    (h : Hex.number? digits = some n) (hn : n.isValidChar) :
    SpellsEscape (Char.ofNat n) ('U' :: digits)

/-- How a character is written between quotes. Backslashes mean something between double quotes
only. -/
inductive SpellsLetter (quote : Char) : Char → List Char → Prop where
  /-- As it is. -/
  | plain {c : Char} (hquote : c ≠ quote) (hback : quote = '"' → c ≠ '\\')
    (h : isTextChar c = true) : SpellsLetter quote c [c]
  /-- Behind a backslash. -/
  | escaped {c : Char} {cs : List Char} (hquote : quote = '"') (h : SpellsEscape c cs) :
    SpellsLetter quote c ('\\' :: cs)

/-- How characters are written between quotes on one line. -/
inductive SpellsLetters (quote : Char) : List Char → List Char → Prop where
  /-- There are none. -/
  | nil : SpellsLetters quote [] []
  /-- One character and others. -/
  | cons {c : Char} {s cs cs' : List Char} (h : SpellsLetter quote c cs)
    (hrest : SpellsLetters quote s cs') : SpellsLetters quote (c :: s) (cs ++ cs')

/-- Blanks and line ends, if any. -/
inductive IsGap : List Char → Prop where
  /-- Blanks. -/
  | blanks {cs : List Char} (h : IsBlanks cs) : IsGap cs
  /-- The end of one line and blanks of the following ones. -/
  | line {cs ending rest : List Char} (h : IsBlanks cs) (hending : IsBreak ending)
    (hrest : IsGap rest) : IsGap (cs ++ (ending ++ rest))

/-- No gap goes on here. -/
def EndsGap (cs : List Char) : Prop :=
  ∀ c, cs.head? = some c → isBlank c = false ∧ c ≠ '\n' ∧ c ≠ '\r'

/-- How characters are written between three quotes on many lines. Up to two quotes may stand in
front of every other character, and at the end. -/
inductive SpellsBlock (quote : Char) : List Char → List Char → Prop where
  /-- There is nothing but quotes. -/
  | quotes {n : Nat} (hn : n ≤ 2) :
    SpellsBlock quote (List.replicate n quote) (List.replicate n quote)
  /-- A character and others. -/
  | letter {n : Nat} {c : Char} {s cs cs' : List Char} (hn : n ≤ 2) (h : SpellsLetter quote c cs)
    (hrest : SpellsBlock quote s cs') :
    SpellsBlock quote (List.replicate n quote ++ c :: s) (List.replicate n quote ++ (cs ++ cs'))
  /-- The end of a line, which counts as a line feed, and others. -/
  | line {n : Nat} {s ending cs' : List Char} (hn : n ≤ 2) (h : IsBreak ending)
    (hrest : SpellsBlock quote s cs') :
    SpellsBlock quote (List.replicate n quote ++ '\n' :: s)
      (List.replicate n quote ++ (ending ++ cs'))
  /-- A backslash at the end of a line, which with all that is blank behind it counts as nothing. -/
  | fold {n : Nat} {s blanks ending gap cs' : List Char} (hn : n ≤ 2) (hquote : quote = '"')
    (hblanks : IsBlanks blanks) (hending : IsBreak ending) (hgap : IsGap gap) (hend : EndsGap cs')
    (hrest : SpellsBlock quote s cs') :
    SpellsBlock quote (List.replicate n quote ++ s)
      (List.replicate n quote ++ '\\' :: (blanks ++ (ending ++ (gap ++ cs'))))

/-- The spelling of a text on one line. -/
inductive SpellsShort : String → List Char → Prop where
  /-- Letters between quotes. -/
  | quoted {quote : Char} {s cs : List Char} (hquote : IsQuote quote)
    (h : SpellsLetters quote s cs) : SpellsShort (String.ofList s) (quote :: (cs ++ [quote]))

/-- The spelling of a text. -/
inductive SpellsText : String → List Char → Prop where
  /-- A text on one line. -/
  | short {s : String} {cs : List Char} (h : SpellsShort s cs) : SpellsText s cs
  /-- A text on many lines. -/
  | block {quote : Char} {s cs : List Char} (hquote : IsQuote quote) (h : SpellsBlock quote s cs)
    (hfirst : ∀ ending rest, IsBreak ending → cs ≠ ending ++ rest) :
    SpellsText (String.ofList s) (quote :: quote :: quote :: (cs ++ [quote, quote, quote]))
  /-- A text on many lines that begins on the line below its quotes. -/
  | below {quote : Char} {s ending cs : List Char} (hquote : IsQuote quote)
    (hending : IsBreak ending) (h : SpellsBlock quote s cs) :
    SpellsText (String.ofList s)
      (quote :: quote :: quote :: (ending ++ (cs ++ [quote, quote, quote])))

/-! ### Keys -/

/-- The spelling of one part of a key. -/
inductive SpellsKeyPart : String → List Char → Prop where
  /-- As it is. -/
  | bare {cs : List Char} (hne : cs ≠ []) (h : ∀ c ∈ cs, isKeyChar c = true) :
    SpellsKeyPart (String.ofList cs) cs
  /-- In quotes. -/
  | quoted {s : String} {cs : List Char} (h : SpellsShort s cs) : SpellsKeyPart s cs

/-- The spelling of a key, with blanks around its parts. -/
inductive SpellsKey : List String → List Char → Prop where
  /-- The last part. -/
  | last {s : String} {front cs back : List Char} (hfront : IsBlanks front)
    (h : SpellsKeyPart s cs) (hback : IsBlanks back) : SpellsKey [s] (front ++ (cs ++ back))
  /-- A part, a dot, and other parts. -/
  | dotted {s : String} {path : List String} {front cs back cs' : List Char}
    (hfront : IsBlanks front) (h : SpellsKeyPart s cs) (hback : IsBlanks back)
    (hrest : SpellsKey path cs') : SpellsKey (s :: path) (front ++ (cs ++ (back ++ '.' :: cs')))

/-! ### Values -/

/-- A run of characters that stands for a value. -/
def SpellsScalar (v : Node) (cs : List Char) : Prop :=
  (∀ c ∈ cs, isRunChar c = true) ∧ scalar cs = some (v, [])

/-- Adds values under their keys to a table. -/
def addAll (members : List (List String × Node)) (entries : Entries) : Option Entries :=
  members.foldlM (fun entries m => addAt m.1 m.2 .header entries) entries

/-- A part of a value. -/
inductive Part where
  /-- A value. -/
  | value (v : Node)
  /-- What stands between brackets. -/
  | items (l : List Node)
  /-- A key with its value. -/
  | member (m : List String × Node)
  /-- What stands between braces. -/
  | members (l : List (List String × Node))

/-- The spelling of a part of a value, in as many brackets as the depth allows. -/
inductive Spells : Nat → Part → List Char → Prop where
  /-- A text. -/
  | text {depth : Nat} {s : String} {cs : List Char} (h : SpellsText s cs) :
    Spells depth (.value (.text s)) cs
  /-- A run of characters. -/
  | scalar {depth : Nat} {v : Node} {cs : List Char} (h : SpellsScalar v cs) :
    Spells depth (.value v) cs
  /-- A date and a time with a blank between them. -/
  | dateAndTime {depth : Nat} {date time : List Char} (hdate : isDate date = true)
    (hdateRun : ∀ c ∈ date, isRunChar c = true) (htime : isZonedTime time = true)
    (htimeRun : ∀ c ∈ time, isRunChar c = true) :
    Spells depth (.value .moment) (date ++ ' ' :: time)
  /-- A list. -/
  | list {depth : Nat} {l : List Node} {cs : List Char} (h : Spells depth (.items l) cs) :
    Spells (depth + 1) (.value (.list l)) ('[' :: (cs ++ [']']))
  /-- A table with nothing in it. -/
  | noMembers {depth : Nat} {cs : List Char} (h : IsBlanks cs) :
    Spells (depth + 1) (.value (.inline [])) ('\x7b' :: (cs ++ ['\x7d']))
  /-- A table, in which no key is given twice. -/
  | inline {depth : Nat} {l : List (List String × Node)} {entries : Entries} {cs : List Char}
    (h : Spells depth (.members l) cs) (hentries : addAll l [] = some entries) :
    Spells (depth + 1) (.value (.inline entries)) ('\x7b' :: (cs ++ ['\x7d']))
  /-- No item, or none behind the last comma. -/
  | noItems {depth : Nat} {cs : List Char} (h : IsTrivia cs) : Spells depth (.items []) cs
  /-- The last item. -/
  | lastItem {depth : Nat} {v : Node} {front cs back : List Char} (hfront : IsTrivia front)
    (h : Spells depth (.value v) cs) (hback : IsTrivia back) :
    Spells depth (.items [v]) (front ++ (cs ++ back))
  /-- An item, a comma, and the other items. -/
  | items {depth : Nat} {v : Node} {l : List Node} {front cs back cs' : List Char}
    (hfront : IsTrivia front) (h : Spells depth (.value v) cs) (hback : IsTrivia back)
    (hrest : Spells depth (.items l) cs') :
    Spells depth (.items (v :: l)) (front ++ (cs ++ (back ++ ',' :: cs')))
  /-- A key and a value. -/
  | member {depth : Nat} {path : List String} {v : Node} {key blanks cs : List Char}
    (hkey : SpellsKey path key) (hlength : path.length < depthLimit) (hblanks : IsBlanks blanks)
    (h : Spells depth (.value v) cs) :
    Spells depth (.member (path, v)) (key ++ '=' :: (blanks ++ cs))
  /-- The last value of a table. -/
  | lastMember {depth : Nat} {m : List String × Node} {cs back : List Char}
    (h : Spells depth (.member m) cs) (hback : IsBlanks back) :
    Spells depth (.members [m]) (cs ++ back)
  /-- A value, a comma, and the other values. -/
  | members {depth : Nat} {m : List String × Node} {l : List (List String × Node)}
    {cs back cs' : List Char} (h : Spells depth (.member m) cs) (hback : IsBlanks back)
    (hrest : Spells depth (.members l) cs') :
    Spells depth (.members (m :: l)) (cs ++ (back ++ ',' :: cs'))

/-! ### Lines -/

/-- The spelling of a statement. -/
inductive SpellsStatement : Statement → List Char → Prop where
  /-- The header of a table. -/
  | table {path : List String} {cs : List Char} (h : SpellsKey path cs)
    (hlength : path.length < depthLimit) : SpellsStatement (.table path) ('[' :: (cs ++ [']']))
  /-- The header of a table in a list. -/
  | element {path : List String} {cs : List Char} (h : SpellsKey path cs)
    (hlength : path.length < depthLimit) :
    SpellsStatement (.element path) ('[' :: '[' :: (cs ++ [']', ']']))
  /-- A key and a value. -/
  | entry {path : List String} {v : Node} {cs : List Char}
    (h : Spells (depthLimit - 1) (.member (path, v)) cs) : SpellsStatement (.entry path v) cs

/-- The spelling of what one line says, without the end of the line. -/
inductive SpellsLine : List Statement → List Char → Prop where
  /-- It says nothing. -/
  | empty {cs : List Char} (h : IsLineTail cs) : SpellsLine [] cs
  /-- One statement. -/
  | statement {s : Statement} {front cs back : List Char} (hfront : IsBlanks front)
    (h : SpellsStatement s cs) (hback : IsLineTail back) :
    SpellsLine [s] (front ++ (cs ++ back))

/-- The spelling of what lines say. The last one may or may not have an end. -/
inductive SpellsLines : List Statement → List Char → Prop where
  /-- The last line. -/
  | last {l : List Statement} {cs : List Char} (h : SpellsLine l cs) : SpellsLines l cs
  /-- One line and others. -/
  | more {l l' : List Statement} {cs ending cs' : List Char} (h : SpellsLine l cs)
    (hending : IsBreak ending) (hrest : SpellsLines l' cs') :
    SpellsLines (l ++ l') (cs ++ (ending ++ cs'))

/-- The texts whose lines say something. A mark of the byte order may stand in front of them. -/
def Document (l : List Statement) (text : String) : Prop :=
  SpellsLines l (dropByteOrderMark text.toList)

end Toml

end ModuleBuild
