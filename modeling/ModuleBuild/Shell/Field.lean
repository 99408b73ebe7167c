import ModuleBuild.Shell.Pattern

/-!
# Texts that an expanded word stands for

Where values are put into a word, the quotes in it still matter: the word falls apart at separators
in values that do not stand in quotes, and a quoted character stands for itself where others form a
pattern. So an expanded word is a list of *atoms*, from which the texts are taken at the end.

## Main definitions

* `Shell.Atom` — a piece of an expanded word
* `Shell.fieldsOf` — the texts that atoms spell, with the marks of quotes
* `Shell.joined`, `Shell.marked` — atoms as one text, without and with these marks
-/

namespace ModuleBuild

namespace Shell

/-- Where a character of an expanded word comes from. -/
inductive Origin where
  /-- It stands in the word itself. -/
  | plain
  /-- It stands in quotes. -/
  | quoted
  /-- It is from a value. -/
  | value
  deriving DecidableEq

/-- A piece of an expanded word. -/
inductive Atom where
  /-- A character. -/
  | char (c : Char) (origin : Origin)
  /-- A text begins here, even if it is empty. -/
  | anchor
  /-- A text ends here. -/
  | cut
  deriving DecidableEq

/-- A text with the marks of quotes. -/
abbrev Field := List Pattern.Marked

/-- The text of a field. -/
def textOf (f : Field) : String := String.ofList (f.map Prod.fst)

/-- A separator that counts for nothing at either end of a text. -/
def isBlank (c : Char) : Bool := c == ' ' || c == '\t' || c == '\n'

/-- The texts that atoms spell; `current` is the one in progress, its last character first. After a
text that a blank has ended, `spaced` says that one more separator belongs to its end. -/
def fieldsFrom (separators : List Char) : Bool → Option Field → List Atom → List Field
  | _, current, [] => (current.map List.reverse).toList
  | spaced, current, .anchor :: rest =>
    fieldsFrom separators spaced (some (current.getD [])) rest
  | _, current, .cut :: rest =>
    (current.map List.reverse).toList ++ fieldsFrom separators false none rest
  | spaced, current, .char c origin :: rest =>
    if origin = .value ∧ c ∈ separators then
      match current with
      | some f => f.reverse :: fieldsFrom separators (isBlank c) none rest
      | none =>
        if isBlank c then fieldsFrom separators spaced none rest
        else if spaced then fieldsFrom separators false none rest
        else [] :: fieldsFrom separators false none rest
    else
      fieldsFrom separators false (some ((c, decide (origin = .quoted)) :: current.getD [])) rest

/-- The texts that atoms spell. -/
def fieldsOf (separators : List Char) (atoms : List Atom) : List Field :=
  fieldsFrom separators false none atoms

/-- The one text that atoms spell where a word does not fall apart, with the marks of quotes. -/
def marked (atoms : List Atom) : Field :=
  atoms.filterMap fun
    | .char c origin => some (c, decide (origin = .quoted))
    | .anchor => none
    | .cut => some (' ', true)

/-- The one text that atoms spell where a word does not fall apart. -/
def joined (atoms : List Atom) : String := textOf (marked atoms)

/-- The atoms of a value. -/
def atomsOf (quoted : Bool) (value : String) : List Atom :=
  value.toList.map (Atom.char · (if quoted then .quoted else .value))

/-- The atoms of several values, each a text of its own. -/
def atomsOfAll (quoted : Bool) (values : List String) : List Atom :=
  [Atom.cut].intercalate (values.map fun v =>
    (if quoted then [.anchor] else []) ++ atomsOf quoted v)

end Shell

end ModuleBuild
