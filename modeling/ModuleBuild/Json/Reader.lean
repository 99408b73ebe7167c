import ModuleBuild.Json.Token

/-!
# Reading values from JSON documents

A reader takes the tokens of a document from the front and stops at the first token that cannot be
what it needs. Such a token is a mismatch if it begins a value of another kind, and else a fault of
the text. A document has been read when no token is left.

## Main definitions

* `Json.Error` — a fault of the text, or a value that does not fit
* `Json.readText`, `Json.readItems`, `Json.readChoice` — read one value of a known kind
* `Json.readListOf` — reads a list element by element
* `Json.readFields` — reads an object field by field
* `Json.skip` — passes over a value of any kind
* `Json.finish` — nothing may follow

## Implementation notes

The message about a fault of the text is shortened to one of two words, for a text that ends too
early and for any other fault. Which rule is broken is not said, and no message says where.
-/

namespace ModuleBuild

namespace Json

/-- Why a document cannot be read. -/
inductive Error where
  /-- Its text is wrong. -/
  | fault (f : Fault)
  /-- A value in it does not fit. -/
  | mismatch (m : Mismatch)
  deriving DecidableEq

namespace Error

/-- The document ends too early. -/
def endOfText : Error := fault .endOfText

/-- The text of the document is wrong. -/
def malformed : Error := fault .malformed

/-- What is said about a document that cannot be read. -/
def message : Error → String
  | fault .endOfText => "EOF"
  | fault .malformed => "syntax"
  | mismatch m => m.message

end Error

/-- A value that has been read, and the tokens after it. -/
abbrev Reading (α : Type) := Except Error (α × List Token)

/-- The error of a token that stands where a value of another kind is needed. -/
def Token.unexpected (expected : String) : Token → Error
  | .null => .mismatch (.kind .null expected)
  | .bool b => .mismatch (.kind (.boolean b) expected)
  | .number n =>
    match n.value? with
    | some v => .mismatch (.kind v.found expected)
    | none => .malformed
  | .text s => .mismatch (.kind (.text s) expected)
  | .openBracket => .mismatch (.kind .sequence expected)
  | .openBrace => .mismatch (.kind .map expected)
  | .brokenWord f => .fault f
  | .brokenNumber f => .fault f
  | .brokenText f _ => .fault f
  | _ => .malformed

/-- The error of tokens that do not begin with a value of the needed kind. -/
def unexpected (expected : String) : List Token → Error
  | [] => .endOfText
  | t :: _ => t.unexpected expected

/-- The error of tokens that do not go on as they must. -/
def misplaced : List Token → Error
  | [] => .endOfText
  | _ => .malformed

/-! ### Single values -/

/-- Reads a text. -/
def readText (expected : String) : List Token → Except Error (String × List Token)
  | .text s :: rest => .ok (s, rest)
  | ts => .error (unexpected expected ts)

/-- Reads a text or the absence of a value. -/
def readOptionalText (expected : String) : List Token → Except Error (Option String × List Token)
  | .null :: rest => .ok (none, rest)
  | ts => (readText expected ts).map fun (s, rest) => (some s, rest)

/-- A byte as a number of a document. -/
def byteOf (expected : String) (t : Token) : Except Error UInt8 :=
  match t with
  | .number n =>
    match n.value? with
    | some (.integer i) =>
      if 0 ≤ i ∧ i < 256 then .ok (UInt8.ofNat i.toNat)
      else .error (.mismatch (.value (.integer i) expected))
    | _ => .error (t.unexpected expected)
  | _ => .error (t.unexpected expected)

/-- A text as an element of a list. -/
def textOf (expected : String) (t : Token) : Except Error String :=
  match t with
  | .text s => .ok s
  | _ => .error (t.unexpected expected)

/-- Checks that a name is one of the choices. -/
def checkChoice (choices : List String) (name : String) : Except Error String :=
  if choices.contains name then .ok name else .error (.mismatch (.choice name choices))

/-- Reads a key, which must be a text. -/
def readKey : List Token → Except Error (String × List Token)
  | .text s :: rest => .ok (s, rest)
  | .brokenText f _ :: _ => .error (.fault f)
  | ts => .error (misplaced ts)

/-- Reads one of several names: either as a text, or as an object with the name as its only key and
no value. -/
def readChoice (choices : List String) : List Token → Except Error (String × List Token)
  | .text s :: rest => (checkChoice choices s).map (·, rest)
  | .brokenText f _ :: _ => .error (.fault f)
  | .openBrace :: rest => do
    let (name, rest) ← readKey rest
    let name ← checkChoice choices name
    match rest with
    | .colon :: .null :: .closeBrace :: rest => return (name, rest)
    | .colon :: .null :: rest => throw (misplaced rest)
    | .colon :: rest => throw (unexpected "unit" rest)
    | rest => throw (misplaced rest)
  | ts => .error (misplaced ts)

/-! ### Lists -/

/-- Reads the elements of a list after the first, up to its end. Each is a single token. -/
def readMoreItems {α : Type} (item : Token → Except Error α) :
    List Token → Except Error (List α × List Token)
  | .closeBracket :: rest => .ok ([], rest)
  | [.comma] => .error .endOfText
  | .comma :: .closeBracket :: _ => .error .malformed
  | .comma :: t :: rest => do
    let a ← item t
    let (as, rest) ← readMoreItems item rest
    return (a :: as, rest)
  | ts => .error (misplaced ts)

/-- Reads the elements of a list after its bracket, each a single token. -/
def readItems {α : Type} (item : Token → Except Error α) :
    List Token → Except Error (List α × List Token)
  | [] => .error .endOfText
  | .closeBracket :: rest => .ok ([], rest)
  | t :: rest => do
    let a ← item t
    let (as, rest) ← readMoreItems item rest
    return (a :: as, rest)

/-- Reads a list of texts. -/
def readTexts (expected : String) : List Token → Except Error (List String × List Token)
  | .openBracket :: rest => readItems (textOf "a string") rest
  | ts => .error (unexpected expected ts)

/-- The tokens at the next element of a list, if there is one. -/
def nextElement (isFirst : Bool) : List Token → Except Error (Option (List Token))
  | [] => .error .endOfText
  | .closeBracket :: _ => .ok none
  | .comma :: rest =>
    if isFirst then .ok (some (.comma :: rest))
    else
      match rest with
      | [] => .error .endOfText
      | .closeBracket :: _ => .error .malformed
      | _ => .ok (some rest)
  | ts => if isFirst then .ok (some ts) else .error .malformed

/-- Reads an element of a list that stands for a field. Where the list has ended, `absent` is the
answer. -/
def readElement {α : Type} (isFirst : Bool) (absent : Except Error α)
    (read : List Token → Reading α) (ts : List Token) : Except Error (α × List Token) := do
  match ← nextElement isFirst ts with
  | some ts => read ts
  | none => return (← absent, ts)

/-- The end of a list. -/
def endList : List Token → Except Error (List Token)
  | .closeBracket :: rest => .ok rest
  | ts => .error (misplaced ts)

/-- Reads the elements of a list up to its end. Every element takes a token away, so there are no
more elements than tokens. -/
def readElements {α : Type} (read : List Token → Reading α) :
    Nat → Bool → List Token → Except Error (List α × List Token)
  | 0, _, _ => .error .malformed
  | fuel + 1, isFirst, ts => do
    match ← nextElement isFirst ts with
    | none => return ([], ← endList ts)
    | some ts =>
      let (a, ts) ← read ts
      let (as, ts) ← readElements read fuel false ts
      return (a :: as, ts)

/-- Reads a list of values of one kind. -/
def readListOf {α : Type} (expected : String) (read : List Token → Reading α) :
    List Token → Except Error (List α × List Token)
  | .openBracket :: ts => readElements read (ts.length + 1) true ts
  | ts => .error (unexpected expected ts)

/-! ### Values of any kind -/

/-- What a skipped value is inside of. -/
inductive Enclosing where
  /-- A list. -/
  | list
  /-- An object. -/
  | object

/-- What must come next in a skipped value. -/
inductive Awaited where
  /-- A value. -/
  | value
  /-- A value, or the end of an empty list. -/
  | firstItem
  /-- A key, or the end of an empty object. -/
  | firstKey
  /-- A key. -/
  | key
  /-- The colon after a key. -/
  | colon
  /-- A comma, or an end. -/
  | next

/-- What is awaited, and inside of what. A comma or an end inside of nothing is awaited when the
value is over. -/
abbrev Skipping := Awaited × List Enclosing

/-- One token at the start of a skipped value. -/
def skipValue (outer : List Enclosing) : Token → Except Error Skipping
  | .openBracket => .ok (.firstItem, .list :: outer)
  | .openBrace => .ok (.firstKey, .object :: outer)
  | .null => .ok (.next, outer)
  | .bool _ => .ok (.next, outer)
  | .number _ => .ok (.next, outer)
  | .text _ => .ok (.next, outer)
  | .halfText => .ok (.next, outer)
  | .brokenWord f => .error (.fault f)
  | .brokenText _ f => .error (.fault f)
  | _ => .error .malformed

/-- One token at the start of a skipped key. -/
def skipKey (outer : List Enclosing) : Token → Except Error Skipping
  | .text _ => .ok (.colon, outer)
  | .halfText => .ok (.colon, outer)
  | .brokenText _ f => .error (.fault f)
  | _ => .error .malformed

/-- One token of a skipped value. -/
def skipToken : Skipping → Token → Except Error Skipping
  | (.value, outer), t => skipValue outer t
  | (.firstItem, outer), .closeBracket => .ok (.next, outer.tail)
  | (.firstItem, outer), t => skipValue outer t
  | (.firstKey, outer), .closeBrace => .ok (.next, outer.tail)
  | (.firstKey, outer), t => skipKey outer t
  | (.key, outer), t => skipKey outer t
  | (.colon, outer), .colon => .ok (.value, outer)
  | (.next, .list :: outer), .comma => .ok (.value, .list :: outer)
  | (.next, .object :: outer), .comma => .ok (.key, .object :: outer)
  | (.next, .list :: outer), .closeBracket => .ok (.next, outer)
  | (.next, .object :: outer), .closeBrace => .ok (.next, outer)
  | _, _ => .error .malformed

/-- Passes over what is awaited, up to the end of the value. -/
def skipFrom (awaited : Skipping) : List Token → Except Error (List Token)
  | [] => .error .endOfText
  | t :: rest =>
    match skipToken awaited t with
    | .error e => .error e
    | .ok (.next, []) => .ok rest
    | .ok awaited => skipFrom awaited rest

/-- Passes over a value of any kind and any depth. -/
def skip (ts : List Token) : Except Error (List Token) := skipFrom (.value, []) ts

/-! ### Objects -/

/-- Reads the next key of an object, if there is one. -/
def nextKey (isFirst : Bool) (ts : List Token) : Except Error (Option (String × List Token)) :=
  match ts with
  | [] => .error .endOfText
  | .closeBrace :: _ => .ok none
  | .comma :: rest => if isFirst then .error .malformed else (readKey rest).map some
  | _ => if isFirst then (readKey ts).map some else .error .malformed

/-- The tokens after the colon of a key. -/
def afterColon : List Token → Except Error (List Token)
  | .colon :: rest => .ok rest
  | ts => .error (misplaced ts)

/-- Reads the fields of an object after its brace. `field` takes what has been read so far, a key
and the tokens at the colon. Every field takes a token away, so there are no more fields than
tokens. -/
def readFields {σ : Type} (field : σ → String → List Token → Reading σ) :
    Nat → σ → Bool → List Token → Except Error (σ × List Token)
  | 0, _, _, _ => .error .malformed
  | fuel + 1, s, isFirst, ts => do
    match ← nextKey isFirst ts with
    | none =>
      match ts with
      | .closeBrace :: rest => return (s, rest)
      | ts => throw (misplaced ts)
    | some (key, rest) =>
      let (s, rest) ← field s key rest
      readFields field fuel s false rest

/-- Reads the fields of an object after its brace, from a start. -/
def readObject {σ : Type} (field : σ → String → List Token → Reading σ) (start : σ)
    (ts : List Token) : Except Error (σ × List Token) :=
  readFields field (ts.length + 1) start true ts

/-- Passes over the value of a field that is of no interest. -/
def skipField {σ : Type} (s : σ) (ts : List Token) : Except Error (σ × List Token) := do
  let ts ← afterColon ts
  return (s, ← skip ts)

/-- Reads the value of a field that may be given once. -/
def readOnce {σ α : Type} (name : String) (old : Option α) (store : Option α → σ)
    (read : List Token → Reading α) (ts : List Token) : Except Error (σ × List Token) := do
  if old.isSome then throw (.mismatch (.duplicate name))
  let ts ← afterColon ts
  let (a, ts) ← read ts
  return (store (some a), ts)

/-- The value of a field that must be given. -/
def required {α : Type} (name : String) (a : Option α) : Except Error α :=
  match a with
  | some a => .ok a
  | none => .error (.mismatch (.missing name))

/-! ### Whole documents -/

/-- What has been read, if nothing follows it. -/
def finish {α : Type} : Reading α → Except Error α
  | .ok (a, []) => .ok a
  | .ok (_, _ :: _) => .error .malformed
  | .error e => .error e

/-- Reads a text as a document. -/
def readDocument {α : Type} (read : List Token → Reading α) (s : String) : Except Error α :=
  finish (read (tokens s.toList))

end Json

end ModuleBuild
