import ModuleBuild.Json.Value
import ModuleBuild.Json.Token

/-!
# The grammar of JSON texts

Which texts are documents, and what each of them spells. The grammar is that of RFC 8259, and knows
nothing of tokens or readers: a text is put together from blanks, marks, words, numbers and quoted
letters, and a document is a value between blanks.

## Halves of surrogate pairs

A letter may be written as a code unit in four digits, and a character beyond the first plane as two
of them. The grammar takes half a pair too, but such a text spells no string. Therefore what a
document spells is a `Json.Tree`, in which a text may be absent, and not a `Json` value.

## Main definitions

* `Json.Tree` — what a document spells
* `Json.SpellsNumeral`, `Json.SpellsText` — the spellings of numbers and texts
* `Json.Part`, `Json.Spells` — the parts of documents, and their spellings
* `Json.Document` — the spellings of a value as a document
* `Json.Part.words` — the tokens of a part
-/

namespace ModuleBuild

namespace Json

/-! ### What is spelled -/

/-- What a document spells. -/
inductive Tree where
  /-- No value. -/
  | null
  /-- A truth value. -/
  | bool (b : Bool)
  /-- A number. -/
  | number (n : Numeral)
  /-- A text, unless it has half a surrogate pair. -/
  | text (s : Option String)
  /-- A list. -/
  | list (items : List Tree)
  /-- An object, its keys in order. -/
  | object (fields : List (Option String × Tree))

/-- What holds of a value if it holds of all values right inside of it, holds of all values. -/
@[induction_eliminator]
theorem Tree.induction {motive : Tree → Prop} (null : motive .null) (bool : ∀ b, motive (.bool b))
    (number : ∀ n, motive (.number n)) (text : ∀ s, motive (.text s))
    (list : ∀ items, (∀ v ∈ items, motive v) → motive (.list items))
    (object : ∀ fields, (∀ f ∈ fields, motive f.2) → motive (.object fields)) :
    ∀ v, motive v
  | .null => null
  | .bool b => bool b
  | .number n => number n
  | .text s => text s
  | .list items => list items fun v _ => induction null bool number text list object v
  | .object fields => object fields fun f hf =>
    have : sizeOf f.2 < sizeOf fields := by
      have := List.sizeOf_lt_of_mem hf
      cases f
      simp at this ⊢
      omega
    induction null bool number text list object f.2

/-! ### Numbers -/

/-- Digits, one at least. -/
def IsDigits (cs : List Char) : Prop := cs ≠ [] ∧ ∀ c ∈ cs, isDigit c = true

/-- Digits before the point. A zero in front stands alone. -/
def IsWhole (cs : List Char) : Prop := IsDigits cs ∧ (cs.head? = some '0' → cs = ['0'])

/-- The spelling of a fraction. -/
inductive SpellsFraction : Option (List Char) → List Char → Prop where
  /-- There is none. -/
  | absent : SpellsFraction none []
  /-- Digits after a point. -/
  | present {digits : List Char} (h : IsDigits digits) :
    SpellsFraction (some digits) ('.' :: digits)

/-- The sign of an exponent, a plus sign if there is none. -/
inductive SpellsSign : Bool → List Char → Prop where
  /-- No sign. -/
  | absent : SpellsSign false []
  /-- A plus sign. -/
  | plus : SpellsSign false ['+']
  /-- A minus sign. -/
  | minus : SpellsSign true ['-']

/-- The spelling of an exponent. -/
inductive SpellsExponent : Option (Bool × List Char) → List Char → Prop where
  /-- There is none. -/
  | absent : SpellsExponent none []
  /-- Digits after a mark, perhaps with a sign. -/
  | present {mark : Char} {down : Bool} {sign digits : List Char} (hmark : mark = 'e' ∨ mark = 'E')
    (hsign : SpellsSign down sign) (h : IsDigits digits) :
    SpellsExponent (some (down, digits)) (mark :: (sign ++ digits))

/-- The spelling of a number. -/
structure SpellsNumeral (n : Numeral) (cs : List Char) : Prop where
  /-- The digits before the point are in order. -/
  whole : IsWhole n.whole
  /-- Fraction and exponent follow them, and a minus sign may stand in front. -/
  rest : ∃ fraction exponent, SpellsFraction n.fraction fraction ∧
    SpellsExponent n.exponent exponent ∧
    cs = (if n.negative then ['-'] else []) ++ (n.whole ++ (fraction ++ exponent))

/-! ### Texts -/

/-- One letter of a text. -/
inductive Letter where
  /-- A character. -/
  | char (c : Char)
  /-- A code unit. -/
  | code (n : Nat)

/-- The characters that are written as a backslash and a letter. -/
def escapes : List (Char × Char) :=
  [('"', '"'), ('\\', '\\'), ('/', '/'), ('b', '\x08'), ('f', '\x0c'), ('n', '\n'), ('r', '\r'),
    ('t', '\t')]

/-- The spelling of a letter. -/
inductive SpellsLetter : Letter → List Char → Prop where
  /-- It stands for itself, unless it is a quote, a backslash or a control character. -/
  | plain {c : Char} (hquote : c ≠ '"') (hback : c ≠ '\\') (hcontrol : 0x20 ≤ c.toNat) :
    SpellsLetter (.char c) [c]
  /-- It is written as a backslash and a letter. -/
  | escaped {e c : Char} (h : (e, c) ∈ escapes) : SpellsLetter (.char c) ['\\', e]
  /-- It is written as a code unit of four digits. -/
  | code {a b c d : Char} {i j k l : Nat} (ha : Hex.value? a = some i) (hb : Hex.value? b = some j)
    (hc : Hex.value? c = some k) (hd : Hex.value? d = some l) :
    SpellsLetter (.code (4096 * i + 256 * j + 16 * k + l)) ['\\', 'u', a, b, c, d]

/-- The spelling of letters, one after another. -/
inductive SpellsLetters : List Letter → List Char → Prop where
  /-- No letter. -/
  | nil : SpellsLetters [] []
  /-- One letter and others. -/
  | cons {letter : Letter} {letters : List Letter} {cs cs' : List Char}
    (h : SpellsLetter letter cs) (hrest : SpellsLetters letters cs') :
    SpellsLetters (letter :: letters) (cs ++ cs')

/-- The characters of letters. Two halves of a surrogate pair are one character, and half a pair
alone is none. -/
def Letter.read? : List Letter → Option (List Char)
  | [] => some []
  | .char c :: rest => (read? rest).map (c :: ·)
  | .code n :: rest =>
    if isLowHalf n then none
    else if isHighHalf n then
      match rest with
      | .code m :: rest => if isLowHalf m then (read? rest).map (pairChar n m :: ·) else none
      | _ => none
    else (read? rest).map (Char.ofNat n :: ·)

namespace Letter

variable {n m : Nat} {letters : List Letter}

theorem not_isLowHalf_of_isHighHalf (h : isHighHalf n = true) : isLowHalf n = false := by
  simp only [isHighHalf, Bool.and_eq_true, decide_eq_true_eq] at h
  simp only [isLowHalf, Bool.and_eq_false_iff, decide_eq_false_iff_not]
  omega

theorem not_isHighHalf_of_isLowHalf (h : isLowHalf n = true) : isHighHalf n = false := by
  rcases hhigh : isHighHalf n with _ | _
  · rfl
  · simp [not_isLowHalf_of_isHighHalf hhigh] at h

/-- A code unit that is no half of a pair is a character. -/
theorem read?_single (hhigh : isHighHalf n = false) (hlow : isLowHalf n = false) :
    read? (.code n :: letters) = (read? letters).map (Char.ofNat n :: ·) := by
  rw [read?.eq_def]
  simp [hhigh, hlow]

/-- Two halves of a pair are a character. -/
theorem read?_pair (hhigh : isHighHalf n = true) (hlow : isLowHalf m = true) :
    read? (.code n :: .code m :: letters) = (read? letters).map (pairChar n m :: ·) := by
  rw [read?.eq_def]
  simp [hhigh, hlow, not_isLowHalf_of_isHighHalf hhigh]

/-- The second half of a pair does not come first. -/
theorem read?_low (hlow : isLowHalf n = true) : read? (.code n :: letters) = none := by
  rw [read?.eq_def]
  simp [hlow]

/-- The first half of a pair is followed by the second. -/
theorem read?_high (hhigh : isHighHalf n = true)
    (h : ∀ m rest, letters = .code m :: rest → isLowHalf m = false) :
    read? (.code n :: letters) = none := by
  rw [read?.eq_def]
  simp only [hhigh, not_isLowHalf_of_isHighHalf hhigh, Bool.false_eq_true, if_false, if_true]
  split
  · rename_i m rest
    rw [h m rest rfl, if_neg Bool.false_ne_true]
  · rfl

end Letter

/-- The spelling of a text: letters between quotes. -/
inductive SpellsText : Option String → List Char → Prop where
  /-- The text has the characters of the letters. -/
  | quoted {letters : List Letter} {cs : List Char} (h : SpellsLetters letters cs) :
    SpellsText ((Letter.read? letters).map String.ofList) ('"' :: (cs ++ ['"']))

/-! ### Documents -/

/-- Blanks, if any. -/
def IsBlanks (cs : List Char) : Prop := ∀ c ∈ cs, c = ' ' ∨ c = '\t' ∨ c = '\n' ∨ c = '\r'

theorem isBlanks_nil : IsBlanks [] := by simp [IsBlanks]

theorem isBlanks_blank : IsBlanks [' '] := by simp [IsBlanks]

/-- A part of a document. -/
inductive Part where
  /-- A value. -/
  | value (v : Tree)
  /-- A value between blanks. -/
  | element (v : Tree)
  /-- What stands between brackets. -/
  | items (l : List Tree)
  /-- What may follow the first item of a list. -/
  | moreItems (l : List Tree)
  /-- A key and its value. -/
  | member (f : Option String × Tree)
  /-- What stands between braces. -/
  | fields (l : List (Option String × Tree))
  /-- What may follow the first field of an object. -/
  | moreFields (l : List (Option String × Tree))

/-- The spelling of a part of a document. -/
inductive Spells : Part → List Char → Prop where
  /-- The word for no value. -/
  | null : Spells (.value .null) ['n', 'u', 'l', 'l']
  /-- A word for a truth value. -/
  | yes : Spells (.value (.bool true)) ['t', 'r', 'u', 'e']
  /-- The other one. -/
  | no : Spells (.value (.bool false)) ['f', 'a', 'l', 's', 'e']
  /-- A number. -/
  | number {n : Numeral} {cs : List Char} (h : SpellsNumeral n cs) : Spells (.value (.number n)) cs
  /-- A text. -/
  | text {s : Option String} {cs : List Char} (h : SpellsText s cs) : Spells (.value (.text s)) cs
  /-- A list. -/
  | list {l : List Tree} {cs : List Char} (h : Spells (.items l) cs) :
    Spells (.value (.list l)) ('[' :: (cs ++ [']']))
  /-- An object. -/
  | object {l : List (Option String × Tree)} {cs : List Char} (h : Spells (.fields l) cs) :
    Spells (.value (.object l)) ('\x7b' :: (cs ++ ['\x7d']))
  /-- A value between blanks. -/
  | element {v : Tree} {front cs back : List Char} (hfront : IsBlanks front)
    (h : Spells (.value v) cs) (hback : IsBlanks back) :
    Spells (.element v) (front ++ (cs ++ back))
  /-- An empty list. -/
  | noItems {blanks : List Char} (h : IsBlanks blanks) : Spells (.items []) blanks
  /-- The items of a list. -/
  | items {v : Tree} {l : List Tree} {cs cs' : List Char} (h : Spells (.element v) cs)
    (hrest : Spells (.moreItems l) cs') : Spells (.items (v :: l)) (cs ++ cs')
  /-- The end of a list. -/
  | noMoreItems : Spells (.moreItems []) []
  /-- The items of a list after the first. -/
  | moreItems {v : Tree} {l : List Tree} {cs cs' : List Char} (h : Spells (.element v) cs)
    (hrest : Spells (.moreItems l) cs') : Spells (.moreItems (v :: l)) (',' :: (cs ++ cs'))
  /-- A key between blanks, a colon, and a value. -/
  | member {k : Option String} {v : Tree} {front key back cs : List Char} (hfront : IsBlanks front)
    (hkey : SpellsText k key) (hback : IsBlanks back) (h : Spells (.element v) cs) :
    Spells (.member (k, v)) (front ++ (key ++ (back ++ ':' :: cs)))
  /-- An empty object. -/
  | noFields {blanks : List Char} (h : IsBlanks blanks) : Spells (.fields []) blanks
  /-- The fields of an object. -/
  | fields {f : Option String × Tree} {l : List (Option String × Tree)} {cs cs' : List Char}
    (h : Spells (.member f) cs) (hrest : Spells (.moreFields l) cs') :
    Spells (.fields (f :: l)) (cs ++ cs')
  /-- The end of an object. -/
  | noMoreFields : Spells (.moreFields []) []
  /-- The fields of an object after the first. -/
  | moreFields {f : Option String × Tree} {l : List (Option String × Tree)} {cs cs' : List Char}
    (h : Spells (.member f) cs) (hrest : Spells (.moreFields l) cs') :
    Spells (.moreFields (f :: l)) (',' :: (cs ++ cs'))

/-- The spellings of a value as a document. -/
def Document (v : Tree) (text : String) : Prop := Spells (.element v) text.toList

/-- Blanks may follow a document. -/
theorem Document.append {v : Tree} {text blanks : String} (h : Document v text)
    (hblanks : IsBlanks blanks.toList) : Document v (text ++ blanks) := by
  unfold Document at h ⊢
  rw [String.toList_append]
  generalize text.toList = cs at h
  cases h with
  | element hfront hv hback =>
    rw [List.append_assoc, List.append_assoc]
    refine .element hfront hv fun c hc => ?_
    rcases List.mem_append.1 hc with hc | hc
    · exact hback c hc
    · exact hblanks c hc

/-! ### Tokens -/

/-- The token of a text. -/
def textToken : Option String → Token
  | some s => .text s
  | none => .halfText

mutual

/-- The tokens of a value. -/
def Tree.words : Tree → List Token
  | .null => [.null]
  | .bool b => [.bool b]
  | .number n => [.number n]
  | .text s => [textToken s]
  | .list items => .openBracket :: (itemWords items ++ [.closeBracket])
  | .object fields => .openBrace :: (fieldWords fields ++ [.closeBrace])

/-- The tokens between brackets. -/
def itemWords : List Tree → List Token
  | [] => []
  | v :: rest => v.words ++ moreItemWords rest

/-- The tokens after the first item of a list. -/
def moreItemWords : List Tree → List Token
  | [] => []
  | v :: rest => .comma :: (v.words ++ moreItemWords rest)

/-- The tokens between braces. -/
def fieldWords : List (Option String × Tree) → List Token
  | [] => []
  | (k, v) :: rest => textToken k :: .colon :: (v.words ++ moreFieldWords rest)

/-- The tokens after the first field of an object. -/
def moreFieldWords : List (Option String × Tree) → List Token
  | [] => []
  | (k, v) :: rest => .comma :: textToken k :: .colon :: (v.words ++ moreFieldWords rest)

end

/-- The tokens of a part. -/
def Part.words : Part → List Token
  | value v => v.words
  | element v => v.words
  | items l => itemWords l
  | moreItems l => moreItemWords l
  | member (k, v) => textToken k :: .colon :: v.words
  | fields l => fieldWords l
  | moreFields l => moreFieldWords l

end Json

end ModuleBuild
