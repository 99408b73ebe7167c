import ModuleBuild.Shell.Field
import ModuleBuild.Shell.Tool.Basic

/-!
# Built-in tools that read

`read` sets variables to the parts of the next line of the input. The line falls apart at separators
like a value, but the last variable gets all that is left.

## Main definitions

* `Shell.Tool.Piece`, `Shell.Tool.lineOf` — a line as it is read
* `Shell.Tool.Cutting`, `Shell.Tool.partsOf` — the parts of a line
* `Shell.Tool.readLine` — the tool
-/

namespace ModuleBuild

namespace Shell

namespace Tool

/-- A piece of a line. -/
inductive Piece where
  /-- A character. -/
  | char (c : Char)
  /-- A character behind a backslash, which is no separator. -/
  | escaped (c : Char)
  /-- A backslash at the end of a line, which joins it with the next one. -/
  | join

/-- The first line, what is left behind it, and whether the line has an end. With `raw` a backslash
stands for itself. -/
def lineOf (raw : Bool) : List Char → List Piece × List Char × Bool
  | [] => ([], [], false)
  | '\n' :: rest => ([], rest, true)
  | ['\\'] => (if raw then [.char '\\'] else [], [], false)
  | '\\' :: c :: rest =>
    if raw then
      let (line, behind, ended) := lineOf raw (c :: rest)
      (.char '\\' :: line, behind, ended)
    else
      let (line, behind, ended) := lineOf raw rest
      ((if c = '\n' then .join else .escaped c) :: line, behind, ended)
  | c :: rest =>
    let (line, behind, ended) := lineOf raw rest
    (if c = '\x00' then line else .char c :: line, behind, ended)

/-! ### The parts of a line -/

/-- A line that is being cut into parts. -/
structure Cutting where
  /-- The parts, the last one first. -/
  parts : List String := []
  /-- The part in progress, its last character first. -/
  current : List Char := []
  /-- Whether a blank has ended the part before, so that more separators may belong to its end. -/
  spaced : Bool := false
  /-- How many parts can still begin, with the one in progress. -/
  left : Nat
  /-- The last part without the separators at its end. -/
  trimmed : Option (List Char) := none

/-- Goes on with a character that is no separator, or that counts for nothing as one. -/
def Cutting.keep (s : Cutting) (c : Char) : Cutting := { s with current := c :: s.current }

/-- Goes on with a character. -/
def Cutting.char (separators : List Char) (s : Cutting) (c : Char) : Cutting :=
  let separates := separators.contains c
  let blank := separates && isBlank c
  if s.left = 0 then
    if blank then { s.keep c with trimmed := s.trimmed.or (some s.current) }
    else
      let trimmed := if separates && s.spaced then s.trimmed else none
      { s.keep c with trimmed, spaced := false }
  else if s.spaced then
    if blank then { s with current := [] }
    else if separates then { s with current := [], spaced := false }
    else { s with current := [c], spaced := false }
  else if !separates then s.keep c
  else if blank && s.current.isEmpty then s
  else if s.left = 1 then
    { s.keep c with left := 0, spaced := blank, trimmed := some s.current }
  else
    { s with
      parts := String.ofList s.current.reverse :: s.parts
      current := []
      spaced := blank
      left := s.left - 1 }

/-- Goes on with a piece. -/
def Cutting.step (separators : List Char) (s : Cutting) : Piece → Cutting
  | .char c => s.char separators c
  | .escaped c => { s.keep c with spaced := false }
  | .join => { s with spaced := false }

/-- The parts of a line, at most so many. -/
def partsOf (separators : List Char) (count : Nat) (line : List Piece) : List String :=
  let s := line.foldl (Cutting.step separators) { left := count }
  match (s.trimmed.getD s.current).reverse with
  | [] => s.parts.reverse
  | last => (String.ofList last :: s.parts).reverse

/-! ### Reading -/

/-- Takes the next line of the input, and says whether it has an end. -/
def nextLine (raw : Bool) : Act (List Piece × Bool) := do
  let st ← get
  match st.task.stream? 0 with
  | none => return ([], false)
  | some index =>
    match st.system.take index none with
    | .error _ => return ([], false)
    | .ok (bytes, system) =>
      let (line, behind, ended) := lineOf raw (Octets.ofBytes bytes).toList
      let rest := bytes.drop (bytes.length - behind.length)
      set { st with system := system.giveBack index rest }
      return (line, ended)

/-- Sets variables to the parts of the next line of the input. -/
def readLine (arguments : List String) : Act Nat := do
  let (options, names) ← optionsOf "p:r" arguments
  if names.isEmpty then fault "arg count"
  let (line, ended) ← nextLine (options.any (·.1 == 'r'))
  let parts := partsOf (← get).separators names.length line
  for (name, i) in names.zipIdx do
    setNamed name (parts[i]?.getD "")
  return if ended then 0 else 1

end Tool

end Shell

end ModuleBuild
