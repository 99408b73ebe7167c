import ModuleBuild.Process.Utility.Lines
import ModuleBuild.Text.Regex

/-!
# Programs that look for lines

`grep` writes the lines of files in which an expression describes something.

## Main definitions

* `Utility.Wanted` — which lines are looked for
* `Utility.Wanted.isIn` — whether a line is one of them
* `Utility.grep` — the program
-/

namespace ModuleBuild

namespace Utility

/-- Which lines are looked for. -/
structure Wanted where
  /-- The expressions. -/
  expressions : List Regex
  /-- Whether capital and small letters are the same. -/
  ignoreCase : Bool
  /-- Whether a whole line has to be described. -/
  whole : Bool
  /-- Whether what is described has to be made of whole words. -/
  words : Bool
  /-- Whether the other lines are looked for. -/
  inverted : Bool

namespace Wanted

/-- Whether what an expression describes is what is looked for. -/
def fits (w : Wanted) (m : Regex.Match) : Bool :=
  (!w.whole || (m.front.isEmpty && m.rest.isEmpty)) &&
    (!w.words || !(m.front.getLast?.any Regex.inWord || m.rest.head?.any Regex.inWord))

/-- What an expression describes behind a part of a line that has been passed over; `fuel` bounds
how often one looks. -/
def partsFrom (w : Wanted) (r : Regex) : Nat → List Char → List Char → List Regex.Match
  | 0, _, _ => []
  | fuel + 1, front, rest =>
    match r.findFrom w.ignoreCase front.reverse front.getLast? rest with
    | none => []
    | some m =>
      let behind := m.front ++ m.text
      let found := if w.fits m then [m] else []
      match m.text, m.rest with
      | [], [] => found
      | [], c :: rest => found ++ w.partsFrom r fuel (behind ++ [c]) rest
      | c :: text, rest =>
        if found.isEmpty then w.partsFrom r fuel (m.front ++ [c]) (text ++ rest)
        else found ++ w.partsFrom r fuel behind rest

/-- The parts of a line that are described, in order. -/
def parts (w : Wanted) (line : List Char) : List Regex.Match :=
  let all := w.expressions.flatMap fun r => w.partsFrom r (line.length + 2) [] line
  match w.expressions with
  | [_] => all
  | _ => all.mergeSort fun a b => a.front.length ≤ b.front.length

/-- Whether a line is looked for. -/
def isIn (w : Wanted) (line : List Char) : Bool := (w.parts line).isEmpty == w.inverted

end Wanted

/-! ### What is shown -/

/-- How lines are shown. -/
structure Showing where
  /-- Whether their numbers are shown. -/
  numbers : Bool
  /-- Whether their places are shown. -/
  offsets : Bool
  /-- Whether only the parts that are described are shown. -/
  onlyParts : Bool
  /-- How many lines are shown in front of each of them. -/
  before : Nat
  /-- How many lines are shown behind each of them. -/
  after : Nat

/-- A line of a file. -/
structure Line where
  /-- Its number. -/
  number : Nat
  /-- Its place. -/
  offset : Nat
  /-- Its bytes without its end. -/
  body : List Char
  /-- Whether it is looked for. -/
  wanted : Bool

/-- Whether a line is to be shown among others. -/
def isNear (o : Showing) (wanted : List Nat) (n : Nat) : Bool :=
  wanted.any fun m => n ≤ m + o.after && m ≤ n + o.before

/-- The lines of a text; after so many that are looked for no other one is. -/
def linesIn (w : Wanted) (most : Option Nat) (text : String) : List Line :=
  let step (state : List Line × Nat × Nat × Nat) (line : List Char) :=
    let (lines, number, offset, found) := state
    let body := bodyOf line
    let wanted := most.all (found < ·) && w.isIn (Octets.toText (String.ofList body)).toList
    ({ number, offset, body, wanted } :: lines, number + 1, offset + line.length,
      if wanted then found + 1 else found)
  ((linesOf text.toList).foldl step ([], 1, 0, 0)).1.reverse

/-- What is in front of a line. -/
def Showing.front (o : Showing) (name : String) (mark : String) (number offset : Nat) : String :=
  (if name.isEmpty then "" else name ++ mark) ++
    (if o.numbers then toString number ++ mark else "") ++
    (if o.offsets then toString offset ++ mark else "")

/-- The lines that are shown. -/
def Showing.show (o : Showing) (w : Wanted) (name : String) (lines : List Line) : String :=
  let wanted := (lines.filter Line.wanted).map Line.number
  let text (l : Line) : String :=
    if o.onlyParts then
      if w.inverted then ""
      else
        let parts := (w.parts (Octets.toText (String.ofList l.body)).toList).filter
          (!·.text.isEmpty)
        "".intercalate (parts.map fun m =>
          o.front name ":" l.number (l.offset + (Utf8.encode (String.ofList m.front)).length) ++
            Octets.ofText (String.ofList m.text) ++ "\n")
    else
      o.front name (if l.wanted then ":" else "-") l.number l.offset ++ String.ofList l.body ++ "\n"
  let shown := lines.filter fun l =>
    if o.onlyParts then l.wanted else isNear o wanted l.number
  let separates := 0 < o.before + o.after && !o.onlyParts
  let step (state : String × Nat) (l : Line) : String × Nat :=
    let gap := separates && 0 < state.2 && state.2 + 1 < l.number
    (state.1 ++ (if gap then "--\n" else "") ++ text l, l.number)
  (shown.foldl step ("", 0)).1

/-! ### The program -/

/-- The options of `grep`. -/
def grepChoices : List Choice :=
  let flag (c : Char) (names : List String) : Choice :=
    { key := String.singleton c, letters := [c], names }
  let value (c : Char) (names : List String) : Choice :=
    { key := String.singleton c, letters := [c], names, value := .required }
  [flag 'E' ["extended-regexp"], flag 'F' ["fixed-strings"], flag 'G' ["basic-regexp"],
    flag 'P' ["perl-regexp"], { key := "i", letters := ['i', 'y'], names := ["ignore-case"] },
    flag 'v' ["invert-match"], flag 'n' ["line-number"], flag 'c' ["count"],
    flag 'l' ["files-with-matches"], flag 'L' ["files-without-match"],
    { key := "q", letters := ['q'], names := ["quiet", "silent"] }, flag 's' ["no-messages"],
    flag 'o' ["only-matching"], flag 'w' ["word-regexp"], flag 'x' ["line-regexp"],
    flag 'h' ["no-filename"], flag 'H' ["with-filename"],
    { key := "r", letters := ['r', 'R'], names := ["recursive"] }, flag 'a' ["text"],
    flag 'b' ["byte-offset"], flag 'I' [], value 'e' ["regexp"], value 'f' ["file"],
    value 'A' ["after-context"], value 'B' ["before-context"], value 'C' ["context"],
    value 'm' ["max-count"],
    { key := "color", names := ["color", "colour"], value := .optional },
    { key := "include", names := ["include"], value := .required }]

/-- The expression that stands for a text itself. -/
def literal (text : String) : Regex :=
  text.toList.foldr (fun c r => .seq (.char c) r) .empty

/-- How `grep` is used. -/
def grepUsage : Job Nat := do
  let name := (← read).name
  Job.complain ("Usage: " ++ name ++ " [OPTION]... PATTERNS [FILE]...\nTry '" ++ name ++
    " --help' for more information.\n")
  return 2

/-- The files at and below a path. -/
def filesBelow (path : String) : Job (List String) := do
  let (cwd, files) ← Job.files
  match files.entry cwd ⟨path⟩ with
  | .ok (l, .directory) =>
    let names := (files.childrenOf l).filterMap fun (m, e) =>
      match e with
      | .file .. => some ("/".intercalate m)
      | _ => none
    let front := if path.endsWith "/" then path else path ++ "/"
    return (names.mergeSort (· ≤ ·)).map (front ++ ·)
  | _ => return [path]

/-- The operands of `grep`, each with the name under which it is shown. -/
def grepOperands (given : List Given) (operands : List String) : Job (List (String × String)) := do
  if has given "r" then
    if operands.isEmpty then
      return (← filesBelow ".").map fun path => (path, (path.drop 2).toString)
    let mut all := []
    for path in operands do
      all := all ++ ((← filesBelow path).map fun p => (p, p))
    return all
  else return (orInput operands).map fun p => (p, if p = "-" then "(standard input)" else p)

/-- Looks for lines in files. -/
def grepFiles (given : List Given) (w : Wanted) (operands : List String) : Job Nat := do
  let number (key : String) : Option Nat := ((valuesOf given key).getLast?).bind String.toNat?
  let context := (number "C").getD 0
  let o : Showing :=
    { numbers := has given "n", offsets := has given "b", onlyParts := has given "o"
      before := (number "B").getD context, after := (number "A").getD context }
  let targets ← grepOperands given operands
  let several := has given "r" || 1 < operands.length
  let named := !has given "h" && (has given "H" || several)
  let mut found := false
  let mut failed := false
  for (path, shownName) in targets do
    if !(found && has given "q") then
      match ← contentOf path with
      | .error fault =>
        failed := true
        let name := if path = "-" then "(standard input)" else path
        if !has given "s" then say (name ++ ": " ++ fault.reason)
      | .ok text =>
        let lines := linesIn w (number "m") text
        let count := (lines.filter Line.wanted).length
        let name := if named then shownName else ""
        let isBinary := !has given "a" &&
          (text.toList.contains '\x00' || (Utf8.decode? (Octets.toBytes text)).isNone)
        if has given "L" then
          if count = 0 then
            found := true
            let _ ← Job.print 0 (shownName ++ "\n")
        else
          if 0 < count then found := true
          if has given "q" then pure ()
          else if has given "l" then
            if 0 < count then
              let _ ← Job.print 0 (shownName ++ "\n")
          else if has given "c" then
            let front := if named then shownName ++ ":" else ""
            let _ ← Job.print 0 (front ++ toString count ++ "\n")
          else if isBinary then
            if 0 < count then say (shownName ++ ": binary file matches")
          else
            let _ ← Job.print 0 (o.show w name lines)
  if failed && !(found && has given "q") then return 2
  return if found then 0 else 1

/-- Writes the lines of files in which an expression describes something. -/
def grepAs (kind : Option String) : Job Nat := do
  match readOptions grepChoices false (← read).arguments with
  | .error message =>
    say message
    grepUsage
  | .ok (given, operands) =>
    let fails (message : String) : Job Nat := do
      say message
      return 2
    let isNumber (text : String) : Bool := text.toNat?.isSome
    let contexts := ["A", "B", "C"].flatMap (valuesOf given)
    if let some wrong := contexts.find? (!isNumber ·) then
      return ← fails (wrong ++ ": invalid context length argument")
    if (valuesOf given "m").any (!isNumber ·) then return ← fails "invalid max count"
    let mut listed := valuesOf given "e"
    for path in valuesOf given "f" do
      match ← contentOf path with
      | .ok text => listed := listed ++ (bodiesOf text).map String.ofList
      | .error fault => return ← fails (path ++ ": " ++ fault.reason)
    let explicit := has given "e" || has given "f"
    let (texts, operands) := if explicit then (listed, operands)
      else (operands.take 1, operands.drop 1)
    if !explicit && texts.isEmpty then return ← grepUsage
    let texts := texts.flatMap fun text =>
      if text.isEmpty then [""] else (text.toList.splitOn '\n').map String.ofList
    let kind := (lastOf given ["E", "F", "G", "P"]).elim kind fun g => some g.1
    let parse (text : String) : Except String Regex :=
      let text := Octets.toText text
      if kind = some "F" then .ok (literal text)
      else Regex.parse (kind == some "E" || kind == some "P") text
    match texts.mapM parse with
    | .error message => fails message
    | .ok expressions =>
      grepFiles given
        { expressions, ignoreCase := has given "i", whole := has given "x"
          words := has given "w", inverted := has given "v" } operands

/-- Writes the lines of files in which an expression describes something. -/
def grep : Job Nat := grepAs none

/-- The same for extended expressions. -/
def egrep : Job Nat := withReader ({ · with name := "grep" }) (grepAs (some "E"))

/-- The same for texts. -/
def fgrep : Job Nat := withReader ({ · with name := "grep" }) (grepAs (some "F"))

end Utility

end ModuleBuild
