import ModuleBuild.Process.Utility.Basic

/-!
# Programs that work on lines

These programs read files, or their input, and write lines of them.

## Main definitions

* `Utility.cat`, `Utility.tee`, `Utility.tac` — copy
* `Utility.head`, `Utility.tail`, `Utility.wc` — the beginning, the end and the size
* `Utility.sort`, `Utility.uniq` — order lines, and drop equal ones
* `Utility.cut`, `Utility.tr` — parts of lines, and other characters
-/

namespace ModuleBuild

namespace Utility

/-! ### Lines -/

/-- The lines of a text, each with its end if it has one. -/
def linesOf : List Char → List (List Char)
  | [] => []
  | '\n' :: rest => ['\n'] :: linesOf rest
  | c :: rest =>
    match linesOf rest with
    | [] => [[c]]
    | line :: lines => if rest.head? = some '\n' ∧ line ≠ ['\n'] then [c] :: line :: lines
      else (c :: line) :: lines

/-- Lines put together. -/
def joinLines (lines : List (List Char)) : String := String.ofList lines.flatten

/-- A line without its end. -/
def bodyOf (line : List Char) : List Char :=
  if line.getLast? = some '\n' then line.dropLast else line

/-- The lines of a text without their ends. -/
def bodiesOf (text : String) : List (List Char) := (linesOf text.toList).map bodyOf

/-- A text that ends the lines that have these bodies. -/
def endLines (bodies : List (List Char)) : String := joinLines (bodies.map (· ++ ['\n']))

/-! ### Reading -/

/-- The content of an operand, a hyphen being the input. -/
def contentOf (operand : String) : Job (Except FileFault String) :=
  if operand = "-" then Job.readInput none else Job.readFile operand none

/-- The operands, or a hyphen if there are none. -/
def orInput (operands : List String) : List String := if operands.isEmpty then ["-"] else operands

/-- Reads operands one after the other, says of which of them cannot be read, and gives the contents
of the others and the status. -/
def readAll (describe : String → FileFault → List String) (operands : List String) :
    Job (List String × Nat) := do
  let mut contents := []
  let mut status := 0
  for operand in orInput operands do
    match ← contentOf operand with
    | .ok text => contents := contents ++ [text]
    | .error fault =>
      sayAll (describe operand fault)
      status := 1
  return (contents, status)

/-- Whether an operand is the input and there is none. -/
def lacksInput (operand : String) (fault : FileFault) : Bool := operand = "-" && fault = .notOpen

/-- What is said about a file that cannot be read. -/
def plainReason (operand : String) (fault : FileFault) : String :=
  quotedIfNeeded operand ++ ": " ++ fault.reason

/-- A number in a space of some width. -/
def inSpace (width n : Nat) : String :=
  let text := toString n
  String.ofList (List.replicate (width - text.length) ' ') ++ text

/-! ### Copying -/

/-- How a file is copied. -/
structure Copying where
  /-- Whether lines are numbered, and whether only those that hold something. -/
  numbers : Bool
  /-- Whether only lines that hold something are numbered. -/
  filled : Bool
  /-- Whether one empty line stands for several. -/
  squeezes : Bool
  /-- Whether the end of a line is shown. -/
  ends : Bool
  /-- Whether a tab is shown. -/
  tabs : Bool
  /-- Whether other characters that do not print are shown. -/
  marks : Bool

/-- A character as it is shown. -/
def Copying.char (o : Copying) (c : Char) : String :=
  let plain (n : Nat) : String :=
    if n = 127 then "^?" else if n < 32 then "^" ++ String.singleton (Char.ofNat (n + 64))
    else String.singleton (Char.ofNat n)
  if c = '\n' then (if o.ends then "$\n" else "\n")
  else if c = '\t' then (if o.tabs then "^I" else "\t")
  else if !o.marks then String.singleton c
  else if c.toNat < 128 then plain c.toNat
  else "M-" ++ plain (c.toNat - 128)

/-- Copies lines behind others of which the last number and the number of empty ones at the end are
given; at the beginning nothing is in front on the same line. -/
def Copying.lines (o : Copying) :
    Nat → Nat → Bool → List (List Char) → String × Nat × Nat × Bool
  | n, blanks, fresh, [] => ("", n, blanks, fresh)
  | n, blanks, fresh, line :: rest =>
    let isEmpty := fresh && line == ['\n']
    let blanks := if isEmpty then blanks + 1 else 0
    if o.squeezes && isEmpty && 1 < blanks then o.lines n blanks fresh rest
    else
      let counts := fresh && o.numbers && !(o.filled && isEmpty)
      let n := if counts then n + 1 else n
      let front := if counts then inSpace 6 n ++ "\t" else ""
      let text := front ++ "".intercalate (line.map o.char)
      let (more, state) := o.lines n blanks (line.getLast? == some '\n') rest
      (text ++ more, state)

/-- Whether a file is the one that the output goes to. -/
def isOutput (operand : String) : Job Bool := do
  let (cwd, files) ← Job.files
  let s ← get
  let output := ((← read).stream? 1).bind fun index => (s.opened[index]?).map OpenFile.medium
  match output, files.entry cwd ⟨operand⟩ with
  | some (.file l), .ok (m, .file content _) => return l == m && !content.isEmpty
  | _, _ => return false

/-- Copies files to the output. -/
def cat : Job Nat :=
  let flag (key : String) (c : Char) (names : List String) : Choice :=
    { key, letters := [c], names }
  let known :=
    [flag "A" 'A' ["show-all"], flag "b" 'b' ["number-nonblank"], flag "e" 'e' [],
      flag "E" 'E' ["show-ends"], flag "n" 'n' ["number"], flag "s" 's' ["squeeze-blank"],
      flag "t" 't' [], flag "T" 'T' ["show-tabs"], flag "u" 'u' [],
      flag "v" 'v' ["show-nonprinting"]]
  withOptions known false 1 fun given operands => do
    let any (keys : List String) : Bool := keys.any (has given)
    let o : Copying :=
      { numbers := any ["n", "b"], filled := has given "b", squeezes := has given "s"
        ends := any ["A", "e", "E"], tabs := any ["A", "t", "T"],
        marks := any ["A", "e", "t", "v"] }
    let isPlain := !any ["A", "b", "e", "E", "n", "s", "t", "T", "v"]
    let mut status := 0
    let mut state := (0, 0, true)
    for operand in orInput operands do
      if operand ≠ "-" && (← isOutput operand) then
        say (quotedIfNeeded operand ++ ": input file is output file")
        status := 1
      else
        match ← contentOf operand with
        | .error fault =>
          say (plainReason operand fault)
          if lacksInput operand fault then say ("closing standard input: " ++ fault.reason)
          status := 1
        | .ok text =>
          if isPlain then status := max status (← Job.print 0 text)
          else
            let (shown, n, blanks, fresh) :=
              o.lines state.1 state.2.1 state.2.2 (linesOf text.toList)
            state := (n, blanks, fresh)
            status := max status (← Job.print 0 shown)
    return status

/-- Copies the input to the output and to files. -/
def tee : Job Nat :=
  let known : List Choice :=
    [{ key := "a", letters := ['a'], names := ["append"] },
      { key := "i", letters := ['i'], names := ["ignore-interrupts"] },
      { key := "p", letters := ['p'] }]
  withOptions known false 1 fun given operands => do
    let input ← Job.readInput none
    let text := input.toOption.getD ""
    let mut status ← Job.print 0 text
    if let .error fault := input then
      sayAll ["read error: " ++ fault.reason, "standard input: " ++ fault.reason]
      status := 1
    for path in operands do
      match ← Job.changeFiles fun cwd files => do
        let path : Path := ⟨path⟩
        let before := if has given "a" then ((files.read cwd path).toOption).getD [] else []
        files.write cwd path (before ++ Octets.toBytes text) with
      | .ok () => pure ()
      | .error fault =>
        say (plainReason path fault)
        status := 1
    return status

/-- Writes the lines of files from the last one to the first. -/
def tac : Job Nat :=
  withOptions [] false 1 fun _ operands => do
    let describe (operand : String) (fault : FileFault) : List String :=
      if lacksInput operand fault then
        ["'standard input': read error: " ++ fault.reason, "-: " ++ fault.reason]
      else ["failed to open " ++ quoted operand ++ " for reading: " ++ fault.reason]
    let (contents, status) ← readAll describe operands
    Job.print status ("".intercalate (contents.map fun text =>
      joinLines (linesOf text.toList).reverse))

/-! ### Beginnings and ends -/

/-- The number that a count spells, with a letter that multiplies it. -/
def countOf? (text : String) : Option Nat :=
  let digits := text.toList.takeWhile Char.isDigit
  let n := digits.foldl (fun n c => 10 * n + (c.toNat - 48)) 0
  if digits = [] then none
  else
    match String.ofList (text.toList.drop digits.length) with
    | "" => some n
    | "b" => some (n * 512)
    | "kB" => some (n * 1000)
    | "k" => some (n * 1024)
    | "K" => some (n * 1024)
    | "MB" => some (n * 1000000)
    | "M" => some (n * 1048576)
    | _ => none

/-- A number of lines or bytes at one end of a text. -/
structure Amount where
  /-- The number. -/
  count : Nat := 10
  /-- Whether bytes are counted. -/
  bytes : Bool := false
  /-- Whether it is counted from the other end. -/
  reversed : Bool := false

/-- A letter that cannot stand behind the number of a first option. -/
def wrongBehindNumber? (signs : List Char) (arguments : List String) : Option Char :=
  match (arguments.headD "").toList with
  | sign :: c :: cs =>
    if signs.contains sign && c.isDigit then
      (cs.dropWhile Char.isDigit).find? fun c => !"bcklmqvz".toList.contains c
    else none
  | _ => none

/-- The arguments with a number behind the sign of a first option as an option of its own. -/
def withNumberOption (signs : List Char) (arguments : List String) : List String :=
  match arguments with
  | first :: rest =>
    match first.toList with
    | sign :: c :: cs =>
      if signs.contains sign && c.isDigit then
        let digits := (c :: cs).takeWhile Char.isDigit
        let letters := (c :: cs).drop digits.length
        let factor := (letters.filter "bkm".toList.contains).map fun c => if c = 'm' then 'M' else c
        let count := digits ++ factor.drop (factor.length - 1)
        let number := String.ofList (if sign = '+' then '+' :: count else count)
        let inBytes := letters.any fun c => c == 'c' || "bkm".toList.contains c
        let unit := if inBytes then "-c" else "-n"
        let others := letters.filter "qvz".toList.contains
        let others := if others = [] then [] else ["-" ++ String.ofList others]
        (unit ++ number) :: others ++ rest
      else arguments
    | _ => arguments
  | [] => []

/-- The options of the programs that show an end of files. -/
def endChoices : List Choice :=
  [{ key := "n", letters := ['n'], names := ["lines"], value := .required },
    { key := "c", letters := ['c'], names := ["bytes"], value := .required },
    { key := "q", letters := ['q'], names := ["quiet", "silent"] },
    { key := "v", letters := ['v'], names := ["verbose"] },
    { key := "z", letters := ['z'], names := ["zero-terminated"] },
    { key := "f", letters := ['f', 'F'], names := ["follow"] }]

/-- The amount that options ask for, `sign` being that of counting from the other end. -/
def amountOf (sign : Char) (given : List Given) : Except String Amount :=
  match lastOf given ["n", "c"] with
  | none => .ok {}
  | some (key, value) =>
    let isSigned := value.toList.head?.any fun c => c == '-' || c == '+'
    let reversed := value.toList.head? == some sign
    let number := if isSigned then (value.drop 1).toString else value
    match countOf? number with
    | some count => .ok { count, bytes := key == "c", reversed }
    | none =>
      .error ("invalid number of " ++ (if key = "c" then "bytes" else "lines") ++ ": " ++
        inQuotes value)

/-- The heading of a file among several ones. -/
def heading (isFirst : Bool) (operand : String) : String :=
  let name := if operand = "-" then "standard input" else operand
  (if isFirst then "" else "\n") ++ "==> " ++ name ++ " <==\n"

/-- Shows an end of files; `missing` is what is said of an input that is not there. -/
def showEnds (missing : String) (sign : Char) (signs : List Char)
    (part : Amount → List Char → List Char)
    (reading : Amount → String → Job (Except FileFault String)) : Job Nat := do
  let arguments := (← read).arguments
  if let some c := wrongBehindNumber? signs arguments then
    return ← misuse 1 ("invalid trailing option -- " ++ String.singleton c)
  let arguments := withNumberOption signs arguments
  withReader (fun t => { t with arguments }) <|
      withOptions endChoices false 1 fun given operands => do
    match amountOf sign given with
    | .error message =>
      say message
      return 1
    | .ok amount =>
      let operands := orInput operands
      let headed := has given "v" || (1 < operands.length && !has given "q")
      let mut status := 0
      let mut isFirst := true
      for operand in operands do
        match ← reading amount operand with
        | .error fault =>
          let name := if operand = "-" then "standard input" else operand
          let opened := fault = .isDirectory
          if opened && headed then
            let _ ← Job.print 0 (heading isFirst operand)
            isFirst := false
          let attempted :=
            if lacksInput operand fault then missing
            else if opened then "error reading "
            else "cannot open "
          let purpose := if opened || lacksInput operand fault then "" else " for reading"
          say (attempted ++ quoted name ++ purpose ++ ": " ++ fault.reason)
          if lacksInput operand fault then say ("-: " ++ fault.reason)
          status := 1
        | .ok text =>
          let front := if headed then heading isFirst operand else ""
          isFirst := false
          status := max status
            (← Job.print 0 (front ++ String.ofList (part amount text.toList)))
      return status

/-- The part of a text at its beginning. -/
def beginning (a : Amount) (cs : List Char) : List Char :=
  if a.bytes then cs.take (if a.reversed then cs.length - a.count else a.count)
  else
    let lines := linesOf cs
    (lines.take (if a.reversed then lines.length - a.count else a.count)).flatten

/-- The part of a text at its end. -/
def ending (a : Amount) (cs : List Char) : List Char :=
  if a.bytes then cs.drop (if a.reversed then a.count - 1 else cs.length - a.count)
  else
    let lines := linesOf cs
    (lines.drop (if a.reversed then a.count - 1 else lines.length - a.count)).flatten

/-- Reads the beginning of an operand. What is left of a file that is the input is not read. -/
def readBeginning (a : Amount) (operand : String) : Job (Except FileFault String) := do
  let limit := if a.bytes && !a.reversed then some a.count else none
  if operand ≠ "-" then Job.readFile operand limit
  else
    match ← Job.readInput limit with
    | .error fault => return .error fault
    | .ok text =>
      match (← read).stream? 0 with
      | none => return .ok text
      | some index =>
        let s ← get
        let isFile := (s.opened[index]?).any fun f => f.medium matches .file _
        let unread := text.toList.drop (beginning a text.toList).length
        if isFile then
          modify fun s => s.giveBack index (Octets.toBytes (String.ofList unread))
        return .ok text

/-- Writes the beginning of files. -/
def head : Job Nat := showEnds "error reading " '-' ['-'] beginning readBeginning

/-- Writes the end of files. -/
def tail : Job Nat :=
  showEnds "cannot fstat " '+' ['-', '+'] ending fun _ operand => contentOf operand

/-! ### Sizes -/

/-- The sizes of a text. -/
structure Sizes where
  /-- The line ends. -/
  lines : Nat := 0
  /-- The words. -/
  words : Nat := 0
  /-- The characters. -/
  chars : Nat := 0
  /-- The bytes. -/
  bytes : Nat := 0
  /-- The length of the longest line. -/
  longest : Nat := 0

/-- How many words there are; `inWord` says whether the character in front belongs to one. -/
def wordCount (inWord : Bool) : List Char → Nat
  | [] => 0
  | c :: rest =>
    let blank := c == ' ' || (9 ≤ c.toNat && c.toNat ≤ 13)
    (if !blank && !inWord then 1 else 0) + wordCount (!blank) rest

/-- The sizes of a text of bytes. -/
def sizesOf (text : String) : Sizes :=
  let chars := (Octets.toText text).toList
  { lines := text.toList.count '\n', words := wordCount false text.toList
    chars := chars.length, bytes := text.length
    longest := ((bodiesOf text).map List.length).foldl max 0 }

/-- The sizes of several texts together. -/
def Sizes.add (a b : Sizes) : Sizes :=
  { lines := a.lines + b.lines, words := a.words + b.words, chars := a.chars + b.chars
    bytes := a.bytes + b.bytes, longest := max a.longest b.longest }

/-- Whether an operand is no file, so that its size is not known in advance. -/
def isNoFile (operand : String) : Job Bool := do
  if operand = "-" then
    let s ← get
    let medium := ((← read).stream? 0).bind fun index => (s.opened[index]?).map OpenFile.medium
    return !(medium matches some (.file _))
  else
    let (cwd, files) ← Job.files
    return files.isDirectory cwd ⟨operand⟩ ||
      files.isDevice cwd ⟨operand⟩

/-- Counts lines, words and bytes. -/
def wc : Job Nat :=
  let known : List Choice :=
    [{ key := "l", letters := ['l'], names := ["lines"] },
      { key := "w", letters := ['w'], names := ["words"] },
      { key := "m", letters := ['m'], names := ["chars"] },
      { key := "c", letters := ['c'], names := ["bytes"] },
      { key := "L", letters := ['L'], names := ["max-line-length"] }]
  withOptions known false 1 fun given operands => do
    let standard := given.isEmpty
    let numbers (s : Sizes) : List Nat :=
      (if standard || has given "l" then [s.lines] else []) ++
        (if standard || has given "w" then [s.words] else []) ++
        (if has given "m" then [s.chars] else []) ++
        (if standard || has given "c" then [s.bytes] else []) ++
        (if has given "L" then [s.longest] else [])
    let mut read : List (String × Sizes) := []
    let mut status := 0
    let mut widest := 1
    let mut lost : Option FileFault := none
    for operand in orInput operands do
      if ← isNoFile operand then widest := 7
      match ← contentOf operand with
      | .ok text => read := read ++ [(operand, sizesOf text)]
      | .error fault =>
        let isLost := lacksInput operand fault
        say (if isLost then "'standard input': " ++ fault.reason else plainReason operand fault)
        if isLost || fault = .isDirectory then read := read ++ [(operand, ({} : Sizes))]
        if isLost then lost := some fault
        status := 1
    let total := (read.map Prod.snd).foldl Sizes.add ({} : Sizes)
    let isSingle := (orInput operands).length == 1 && (numbers ({} : Sizes)).length == 1
    let width := if isSingle then 1 else max widest (toString total.bytes).length
    let line (name : String) (s : Sizes) : String :=
      " ".intercalate ((numbers s).map (inSpace width)) ++
        (if name.isEmpty then "" else " " ++ name) ++ "\n"
    let shown := read.map fun (name, s) => line (if operands.isEmpty then "" else name) s
    let totals := if 1 < operands.length then [line "total" total] else []
    status ← Job.print status ("".intercalate (shown ++ totals))
    if let some fault := lost then say ("-: " ++ fault.reason)
    return status

/-! ### Order -/

/-- How lines or parts of them are compared. -/
structure Order where
  /-- As numbers. -/
  numeric : Bool := false
  /-- The other way round. -/
  reversed : Bool := false
  /-- Without a difference between capital and small letters. -/
  folds : Bool := false
  /-- Without blanks in front. -/
  unblanked : Bool := false
  /-- Only by letters, digits and blanks. -/
  dictionary : Bool := false

/-- A part of lines by which they are compared: its first field and character, and its last ones. -/
structure SortKey where
  /-- The first field and the first character in it. -/
  first : Nat × Nat
  /-- The last field and the last character in it, if there is one; no character means all. -/
  last : Option (Nat × Nat)
  /-- How it is compared. -/
  order : Option Order

/-- The number at the front of a text, by its sign, its digits in front of the point, and those
behind it. -/
def numberAt (cs : List Char) : Bool × Nat × List Char :=
  let cs := cs.dropWhile fun c => c == ' ' || c == '\t'
  let (negative, cs) : Bool × List Char :=
    match cs with
    | '-' :: rest => (true, rest)
    | _ => (false, cs)
  let whole := cs.takeWhile Char.isDigit
  let fraction := match cs.drop whole.length with
    | '.' :: rest => rest.takeWhile Char.isDigit
    | _ => []
  (negative, whole.foldl (fun n c => 10 * n + (c.toNat - 48)) 0,
    (fraction.reverse.dropWhile (· = '0')).reverse)

/-- Whether a number comes before another one, or after it. -/
def compareNumbers (a b : List Char) : Ordering :=
  let (na, wa, fa) := numberAt a
  let (nb, wb, fb) := numberAt b
  let size := (compare wa wb).then (compareOfLessAndEq fa fb)
  let isZero (w : Nat) (f : List Char) : Bool := w == 0 && f.isEmpty
  match na && !isZero wa fa, nb && !isZero wb fb with
  | false, false => size
  | true, true => size.swap
  | true, false => .lt
  | false, true => .gt

/-- Whether a text comes before another one, or after it. -/
def Order.compare (o : Order) (a b : List Char) : Ordering :=
  let trim (cs : List Char) : List Char :=
    if o.unblanked then cs.dropWhile fun c => c == ' ' || c == '\t' else cs
  let only (cs : List Char) : List Char :=
    if o.dictionary then cs.filter fun c => c.isAlphanum || c == ' ' || c == '\t' else cs
  let fold (cs : List Char) : List Char := if o.folds then cs.map Char.toUpper else cs
  let result :=
    if o.numeric then compareNumbers a b
    else
      let a := fold (only (trim a))
      let b := fold (only (trim b))
      compareOfLessAndEq a b
  if o.reversed then result.swap else result

/-- The fields of a line, with the blanks in front of each if nothing else separates them. -/
def fieldsOf (separator : Option Char) (line : List Char) : List (List Char) :=
  match separator with
  | some c => line.splitOn c
  | none =>
    let blank (c : Char) : Bool := c == ' ' || c == '\t'
    let rec cut : Nat → List Char → List (List Char)
      | 0, _ => []
      | _, [] => []
      | fuel + 1, cs =>
        let blanks := cs.takeWhile blank
        let word := (cs.drop blanks.length).takeWhile (!blank ·)
        (blanks ++ word) :: cut fuel (cs.drop (blanks.length + word.length))
    cut (line.length + 1) line

/-- The part of a line that a key names. -/
def SortKey.part (k : SortKey) (separator : Option Char) (unblanked : Bool) (line : List Char) :
    List Char :=
  let fields := fieldsOf separator line
  let joint : List Char := separator.toList
  let trim (cs : List Char) : List Char :=
    if unblanked then cs.dropWhile fun c => c == ' ' || c == '\t' else cs
  let chosen := match k.last with
    | none => fields.drop (k.first.1 - 1)
    | some (field, char) =>
      let fields := fields.take field
      let fields :=
        if char = 0 then fields
        else fields.modify (field - 1) fun cs =>
          cs.take (cs.length - (trim cs).length + char)
      fields.drop (k.first.1 - 1)
  match chosen with
  | [] => []
  | first :: rest => joint.intercalate ((trim first).drop (k.first.2 - 1) :: rest)

/-- The order that letters ask for. -/
def orderOf (letters : List Char) : Order :=
  { numeric := letters.any fun c => c == 'n' || c == 'g' || c == 'h'
    reversed := letters.contains 'r', folds := letters.contains 'f'
    unblanked := letters.contains 'b', dictionary := letters.contains 'd' }

/-- A key as it is written. -/
def sortKey? (text : String) : Except String SortKey := do
  let position (cs : List Char) (standard : Nat) : Option (Nat × Nat × List Char) := do
    let field := cs.takeWhile Char.isDigit
    let n ← (String.ofList field).toNat?
    match cs.drop field.length with
    | '.' :: rest =>
      let char := rest.takeWhile Char.isDigit
      return (n, ← (String.ofList char).toNat?, rest.drop char.length)
    | rest => return (n, standard, rest)
  match position text.toList 1 with
  | none =>
    throw ("invalid number at field start: invalid count at start of " ++ inQuotes text)
  | some (field, char, rest) =>
    if field = 0 then throw ("field number is zero: invalid field specification " ++ inQuotes text)
    let letters := rest.takeWhile Char.isAlpha
    match rest.drop letters.length with
    | ',' :: rest =>
      match position rest 0 with
      | none =>
        throw ("invalid number after ',': invalid count at start of " ++
          inQuotes (String.ofList rest))
      | some (last, lastChar, rest) =>
        let all := letters ++ rest.takeWhile Char.isAlpha
        let order := if all = [] then none else some (orderOf all)
        return { first := (field, char), last := some (last, lastChar), order }
    | _ =>
      let order := if letters = [] then none else some (orderOf letters)
      return { first := (field, char), last := none, order }

/-- Whether a line comes before another one, or after it, by keys and then as a whole. -/
def compareLines (separator : Option Char) (keys : List SortKey) (order : Order) (isStable : Bool)
    (a b : List Char) : Ordering :=
  let byKeys := keys.foldl (fun result k =>
    let o := k.order.getD order
    let part := k.part separator (o.unblanked && !o.numeric)
    result.then (o.compare (part a) (part b))) Ordering.eq
  let whole := if keys.isEmpty then order.compare a b else .eq
  let result := byKeys.then whole
  let last := compareOfLessAndEq a b
  if isStable then result else result.then (if order.reversed then last.swap else last)

/-- The lines that are not the same as the one in front of them. -/
def withoutRepeats (same : List Char → List Char → Bool) : List (List Char) → List (List Char)
  | [] => []
  | a :: rest =>
    match withoutRepeats same rest with
    | [] => [a]
    | b :: more => if same a b then a :: more else a :: b :: more

/-- Lines of several files one after the other, those of each file in their order; the least of the
lines that are next comes first. -/
def mergedLines (less : List Char → List Char → Bool) (files : List (List (List Char))) :
    List (List Char) :=
  files.foldl (fun merged lines => merged.merge lines less) []

/-- Writes the lines of files in order. -/
def sort : Job Nat :=
  let flag (c : Char) (names : List String) : Choice :=
    { key := String.singleton c, letters := [c], names }
  let known :=
    [flag 'n' ["numeric-sort"], flag 'g' ["general-numeric-sort"], flag 'h' ["human-numeric-sort"],
      flag 'r' ["reverse"], flag 'f' ["ignore-case"], flag 'b' ["ignore-leading-blanks"],
      flag 'd' ["dictionary-order"], flag 'u' ["unique"], flag 's' ["stable"], flag 'm' ["merge"],
      flag 'c' ["check"], flag 'C' [], flag 'i' [], flag 'V' [], flag 'z' [],
      { key := "k", letters := ['k'], names := ["key"], value := .required },
      { key := "t", letters := ['t'], names := ["field-separator"], value := .required },
      { key := "o", letters := ['o'], names := ["output"], value := .required }]
  withOptions known false 2 fun given operands => do
    let fails (message : String) : Job Nat := do
      say message
      return 2
    match (valuesOf given "k").mapM sortKey? with
    | .error message => fails message
    | .ok keys =>
    let separator := (valuesOf given "t").getLast?
    if let some text := separator then
      if 1 < text.length && text ≠ "\\0" then
        return ← fails ("multi-character tab " ++ inQuotes text)
    let tab := separator.bind fun text => text.toList.head?
    let letters := given.filterMap fun g => g.1.toList.head?
    let order := orderOf letters
    let describe (operand : String) (fault : FileFault) : List String :=
      let attempted :=
        if lacksInput operand fault then "stat failed: "
        else if fault = .isDirectory then "read failed: "
        else "cannot read: "
      [attempted ++ quotedIfNeeded operand ++ ": " ++ fault.reason]
    let (contents, status) ← readAll describe operands
    if status ≠ 0 then return 2
    let lines := contents.flatMap bodiesOf
    let isUnique := has given "u"
    let compare := compareLines tab keys order (isUnique || has given "s")
    if has given "c" || has given "C" then
      let wrong := (lines.zip lines.tail).zipIdx.find? fun ((a, b), _) =>
        compare a b == .gt || (isUnique && compare a b == .eq)
      match wrong with
      | none => return 0
      | some ((_, b), n) =>
        if has given "c" then
          let name := (operands.head?).getD "-"
          say (name ++ ":" ++ toString (n + 2) ++ ": disorder: " ++ String.ofList b)
        return 1
    let less (a b : List Char) : Bool := compare a b != .gt
    let sorted :=
      if has given "m" then mergedLines less (contents.map bodiesOf) else lines.mergeSort less
    let sorted :=
      if isUnique then withoutRepeats (fun a b => compare a b == .eq) sorted else sorted
    match (valuesOf given "o").getLast? with
    | none => Job.print 0 (endLines sorted)
    | some path =>
      match ← Job.changeFiles fun cwd files =>
        files.write cwd ⟨path⟩ (Octets.toBytes (endLines sorted)) with
      | .ok () => return 0
      | .error fault => fails ("open failed: " ++ quotedIfNeeded path ++ ": " ++ fault.reason)

/-- Lines that are the same and follow one another, with their number. -/
def groupsOf (same : List Char → List Char → Bool) : List (List Char) → List (List Char × Nat)
  | [] => []
  | a :: rest =>
    match groupsOf same rest with
    | [] => [(a, 1)]
    | (b, n) :: more => if same a b then (a, n + 1) :: more else (a, 1) :: (b, n) :: more

/-- Writes lines that follow one another and are the same only once. -/
def uniq : Job Nat :=
  let flag (c : Char) (names : List String) : Choice :=
    { key := String.singleton c, letters := [c], names }
  let number (c : Char) (names : List String) : Choice :=
    { key := String.singleton c, letters := [c], names, value := .required }
  let known :=
    [flag 'c' ["count"], flag 'd' ["repeated"], flag 'D' [], flag 'u' ["unique"],
      flag 'i' ["ignore-case"], flag 'z' [], number 'f' ["skip-fields"],
      number 's' ["skip-chars"], number 'w' ["check-chars"]]
  withOptions known false 1 fun given operands => do
    match operands with
    | _ :: _ :: extra :: _ => misuse 1 ("extra operand " ++ inQuotes extra)
    | _ =>
    match ← contentOf ((operands.head?).getD "-") with
    | .error fault =>
      let operand := (operands.head?).getD "-"
      say (if lacksInput operand fault then "error reading '-': " ++ fault.reason
        else plainReason operand fault)
      return 1
    | .ok text =>
    let count (key : String) : Option Nat := ((valuesOf given key).getLast?).bind String.toNat?
    let blank (c : Char) : Bool := c == ' ' || c == '\t'
    let skipField (cs : List Char) : List Char := (cs.dropWhile blank).dropWhile (!blank ·)
    let key (cs : List Char) : List Char :=
      let cs := (List.range ((count "f").getD 0)).foldl (fun cs _ => skipField cs) cs
      let cs := cs.drop ((count "s").getD 0)
      let cs := (count "w").elim cs cs.take
      if has given "i" then cs.map Char.toLower else cs
    let groups := groupsOf (fun a b => key a == key b) (bodiesOf text)
    let chosen := groups.filter fun (_, n) =>
      (!has given "d" || 1 < n) && (!has given "u" || n == 1)
    let lines := (bodiesOf text).splitBy fun a b => key a == key b
    let shown := if has given "D" then (lines.filter (1 < ·.length)).flatten
      else chosen.map fun (cs, n) =>
        if has given "c" then (inSpace 7 n ++ " ").toList ++ cs else cs
    match operands with
    | [_, path] =>
      attempt (quotedIfNeeded path) fun cwd files =>
        files.write cwd ⟨path⟩ (Octets.toBytes (endLines shown))
    | _ => Job.print 0 (endLines shown)

/-! ### Parts of lines -/

/-- Numbers from one to another, or on to the end. -/
abbrev Span := Nat × Option Nat

/-- Spans as they are written between commas. -/
def spans? (what : String) (text : String) : Except String (List Span) :=
  let number? (cs : List Char) : Option Nat :=
    if cs ≠ [] ∧ cs.all Char.isDigit then (String.ofList cs).toNat? else none
  let wrong (cs : List Char) : Except String Span :=
    .error ("invalid " ++ what ++ " " ++ inQuotes (String.ofList cs))
  (text.toList.splitOn ',').mapM fun cs => do
    let first := cs.takeWhile (· ≠ '-')
    match cs.drop first.length with
    | [] =>
      match number? first with
      | some 0 => throw "fields are numbered from 1"
      | some n => return (n, some n)
      | none => wrong cs
    | _ :: last =>
      match first, last with
      | [], [] => throw "invalid range with no endpoint: -"
      | [], _ =>
        match number? last with
        | some n => return (1, some n)
        | none => wrong cs
      | _, [] =>
        match number? first with
        | some 0 => throw "fields are numbered from 1"
        | some n => return (n, none)
        | none => wrong cs
      | _, _ =>
        match number? first, number? last with
        | some m, some n => if n < m then throw "invalid decreasing range" else return (m, some n)
        | _, _ => wrong cs

/-- Whether a number is in one of some spans. -/
def inSpans (spans : List Span) (n : Nat) : Bool :=
  spans.any fun (low, high) => low ≤ n && high.all (n ≤ ·)

/-- The items whose number is in some spans. -/
def chosen {α : Type} (spans : List Span) (complement : Bool) (items : List α) : List α :=
  (items.zipIdx.filter fun (_, n) => inSpans spans (n + 1) != complement).map Prod.fst

/-- Writes parts of lines. -/
def cut : Job Nat :=
  let value (c : Char) (names : List String) : Choice :=
    { key := String.singleton c, letters := [c], names, value := .required }
  let known :=
    [value 'b' ["bytes"], value 'c' ["characters"], value 'f' ["fields"], value 'd' ["delimiter"],
      { key := "s", letters := ['s'], names := ["only-delimited"] },
      { key := "n", letters := ['n'] },
      { key := "complement", names := ["complement"] },
      { key := "output", names := ["output-delimiter"], value := .required }]
  withOptions known false 1 fun given operands => do
    let lists := given.filter fun g => ["b", "c", "f"].contains g.1
    match lists with
    | [] => misuse 1 "you must specify a list of bytes, characters, or fields"
    | _ :: _ :: _ => misuse 1 "only one list may be specified"
    | [(key, text)] =>
    let delimiter := ((valuesOf given "d").getLast?).getD "\t"
    if 1 < delimiter.length then return ← misuse 1 "the delimiter must be a single character"
    let byField := key == "f"
    if !byField && has given "d" then
      return ← misuse 1 "an input delimiter may be specified only when operating on fields"
    match spans? (if byField then "field value" else "byte/character position") text with
    | .error message => misuse 1 message
    | .ok spans =>
    let describe (operand : String) (fault : FileFault) : List String :=
      List.replicate (if lacksInput operand fault then 2 else 1) (plainReason operand fault)
    let (contents, status) ← readAll describe operands
    let tab := (delimiter.toList.head?).getD '\x00'
    let joint := match (valuesOf given "output").getLast? with
      | some text => text.toList
      | none => [tab]
    let complement := has given "complement"
    let lineOf (cs : List Char) : Option (List Char) :=
      if !byField then some (chosen spans complement cs)
      else if !cs.contains tab then (if has given "s" then none else some cs)
      else some (joint.intercalate (chosen spans complement (cs.splitOn tab)))
    Job.print status (endLines ((contents.flatMap bodiesOf).filterMap lineOf))

/-! ### Characters -/

/-- The character of an escape behind its backslash, and what is left. -/
def unescape (cs : List Char) : Char × List Char :=
  match cs with
  | 'a' :: rest => ('\x07', rest)
  | 'b' :: rest => ('\x08', rest)
  | 'f' :: rest => ('\x0c', rest)
  | 'n' :: rest => ('\n', rest)
  | 'r' :: rest => ('\r', rest)
  | 't' :: rest => ('\t', rest)
  | 'v' :: rest => ('\x0b', rest)
  | c :: rest =>
    if '0' ≤ c && c ≤ '7' then
      let digits := ((c :: rest).take 3).takeWhile fun c => '0' ≤ c && c ≤ '7'
      (Char.ofNat (digits.foldl (fun n c => 8 * n + (c.toNat - 48)) 0 % 256),
        (c :: rest).drop digits.length)
    else (c, rest)
  | [] => ('\\', [])

/-- A character of a set of `tr`, and whether a backslash was in front of it. -/
def plainAt (cs : List Char) : Option (Char × List Char) :=
  match cs with
  | [] => none
  | '\\' :: rest => some (unescape rest)
  | c :: rest => some (c, rest)

/-- The characters of a class with a name. -/
def classMembers? (name : String) : Option (List Char) :=
  let all := (List.range 256).map Char.ofNat
  let pick (p : Char → Bool) : Option (List Char) := some (all.filter p)
  match name with
  | "alnum" => pick Char.isAlphanum
  | "alpha" => pick Char.isAlpha
  | "blank" => pick fun c => c == ' ' || c == '\t'
  | "cntrl" => pick fun c => c.toNat < 32 || c.toNat == 127
  | "digit" => pick Char.isDigit
  | "graph" => pick fun c => 32 < c.toNat && c.toNat < 127
  | "lower" => pick Char.isLower
  | "print" => pick fun c => 32 ≤ c.toNat && c.toNat < 127
  | "punct" => pick fun c => 32 < c.toNat && c.toNat < 127 && !c.isAlphanum
  | "space" => pick fun c => c == ' ' || (9 ≤ c.toNat && c.toNat ≤ 13)
  | "upper" => pick Char.isUpper
  | "xdigit" => pick fun c => c.isDigit || ('a' ≤ c.toLower && c.toLower ≤ 'f')
  | _ => none

/-- A piece of a set: characters, or one that fills up the set. -/
abbrev SetPiece := Sum (List Char) (Char × Nat)

/-- The pieces of a set; `fuel` bounds their number. -/
def setPieces : Nat → List Char → Except String (List SetPiece)
  | 0, _ => .ok []
  | _, [] => .ok []
  | fuel + 1, '[' :: ':' :: rest => do
    let name := rest.takeWhile Char.isAlpha
    match rest.drop name.length with
    | ':' :: ']' :: more =>
      match classMembers? (String.ofList name) with
      | some members => return .inl members :: (← setPieces fuel more)
      | none => throw ("invalid character class " ++ inQuotes (String.ofList name))
    | _ => return .inl ['['] :: (← setPieces fuel (':' :: rest))
  | fuel + 1, cs => do
    let filling? : Option (Char × Nat × List Char) := do
      let rest ← match cs with
        | '[' :: rest => some rest
        | _ => none
      let (c, rest) ← plainAt rest
      let digits := rest.drop 1 |>.takeWhile Char.isDigit
      match rest, rest.drop (1 + digits.length) with
      | '*' :: _, ']' :: rest => return (c, ((String.ofList digits).toNat?).getD 0, rest)
      | _, _ => none
    match filling? with
    | some (c, n, rest) => return .inr (c, n) :: (← setPieces fuel rest)
    | none =>
      match plainAt cs with
      | none => return []
      | some (c, '-' :: d :: rest) =>
        match plainAt (d :: rest) with
        | none => return [.inl [c]]
        | some (d, rest) =>
          if d < c then
            let range := String.ofList [c, '-', d]
            throw ("range-endpoints of '" ++ range ++ "' are in reverse collating sequence order")
          let members := (List.range (d.toNat - c.toNat + 1)).map fun n => Char.ofNat (c.toNat + n)
          return .inl members :: (← setPieces fuel rest)
      | some (c, rest) => return .inl [c] :: (← setPieces fuel rest)

/-- The characters of pieces, of which there are to be so many. -/
def setMembers (size : Nat) (pieces : List SetPiece) : List Char :=
  let fixed := (pieces.map fun
    | .inl members => members.length
    | .inr (_, n) => n).foldl (· + ·) 0
  pieces.flatMap fun
    | .inl members => members
    | .inr (c, 0) => List.replicate (size - fixed) c
    | .inr (c, n) => List.replicate n c

/-- A text in which no character of a set follows itself. -/
def squeezed (p : Char → Bool) : List Char → List Char
  | [] => []
  | [c] => [c]
  | c :: d :: rest => if c = d ∧ p c then squeezed p (d :: rest) else c :: squeezed p (d :: rest)

/-- Changes characters. -/
def tr : Job Nat :=
  let known : List Choice :=
    [{ key := "c", letters := ['c', 'C'], names := ["complement"] },
      { key := "d", letters := ['d'], names := ["delete"] },
      { key := "s", letters := ['s'], names := ["squeeze-repeats"] },
      { key := "t", letters := ['t'], names := ["truncate-set1"] }]
  withOptions known true 1 fun given operands => do
    let deletes := has given "d"
    let squeezes := has given "s"
    let needsTwo := deletes == squeezes
    match operands with
    | [] => misuse 1 "missing operand"
    | first :: rest =>
    if rest.isEmpty && needsTwo then
      say ("missing operand after " ++ inQuotes first)
      let why :=
        if deletes then "Two strings must be given when both deleting and squeezing repeats."
        else "Two strings must be given when translating."
      Job.complain (why ++ "\nTry '" ++ (← read).name ++ " --help' for more information.\n")
      return 1
    let most := if deletes && !squeezes then 1 else 2
    if let some extra := operands[most]? then
      say ("extra operand " ++ inQuotes extra)
      if most = 1 then
        Job.complain "Only one string may be given when deleting without squeezing repeats.\n"
      Job.complain ("Try '" ++ (← read).name ++ " --help' for more information.\n")
      return 1
    let second := (rest.head?).getD ""
    match setPieces (first.length + 1) first.toList,
      setPieces (second.length + 1) second.toList with
    | .error message, _ =>
      say message
      return 1
    | _, .error message =>
      say message
      return 1
    | .ok a, .ok b =>
    let listed := setMembers 0 a
    let source := if has given "c" then
        ((List.range 256).map Char.ofNat).filter (!listed.contains ·)
      else listed
    let images := setMembers source.length b
    if !deletes && !rest.isEmpty && images.isEmpty then
      say "when not truncating set1, string2 must be non-empty"
      return 1
    match ← Job.readInput none with
    | .error fault =>
      say ("read error: " ++ fault.reason)
      return 1
    | .ok input =>
    let text := input.toList
    let last := (images.getLast?).getD ' '
    let change (c : Char) : Char :=
      match source.idxOf? c with
      | some n =>
        if has given "t" && images.length ≤ n then c else (images[n]?).getD last
      | none => c
    let changed :=
      if deletes then text.filter (!source.contains ·)
      else if rest.isEmpty then text
      else text.map change
    let repeats := if rest.isEmpty then source else images
    Job.print 0 (String.ofList (if squeezes then squeezed repeats.contains changed else changed))

end Utility

end ModuleBuild
