import ModuleBuild.Digest.Basic
import ModuleBuild.Json.Reader

/-!
# Content hashes as JSON

In a document a content hash is the list of its sixteen bytes.

## Main definitions

* `ContentHash.ofDocument` — reads a content hash
-/

namespace ModuleBuild

namespace ContentHash

/-- What a document must hold where a content hash is read. -/
def expected : String := "an array of length 16"

/-- Reads the remaining bytes of a list, `count` of which have been read. -/
def readBytes : Nat → Nat → List Json.Token → Except Json.Error (Bytes × List Json.Token)
  | 0, _, ts => do return ([], ← Json.endList ts)
  | missing + 1, count, ts => do
    match ← Json.nextElement (count == 0) ts with
    | none => throw (.mismatch (.length count expected))
    | some [] => throw .endOfText
    | some (t :: rest) =>
      let b ← Json.byteOf "u8" t
      let (bytes, rest) ← readBytes missing (count + 1) rest
      return (b :: bytes, rest)

/-- Reads a content hash. -/
def read : List Json.Token → Except Json.Error (ContentHash × List Json.Token)
  | .openBracket :: ts => do
    let (bytes, rest) ← readBytes 16 0 ts
    if h : bytes.length = 16 then return (⟨bytes, h⟩, rest)
    else throw (.mismatch (.length bytes.length expected))
  | ts => .error (Json.unexpected expected ts)

/-- Reads a document that is a content hash. -/
def ofDocument (s : String) : Except Json.Error ContentHash := Json.readDocument read s

end ContentHash

end ModuleBuild
