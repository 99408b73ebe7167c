import ModuleBuild.Shell.Sum

/-!
# Expanding words

A word is expanded by putting values in the place of its parameters, of the commands in it, and of
its sums. Where a list of texts is needed the word then falls apart at separators, and a text that
is a pattern stands for the paths that it describes.

## Main definitions

* `Shell.expandParts` — the atoms of a word
* `Shell.expandText`, `Shell.expandPattern` — a word as one text, and as a pattern
* `Shell.expandAll` — the texts that some words stand for
* `Shell.matchingPaths` — the paths that a pattern describes

## Implementation notes

`outputOf` runs the commands whose output is put into a word.
-/

namespace ModuleBuild

namespace Shell

/-- Runs commands and gives what they have written to their output. -/
abbrev OutputOf := Command → Act String

/-! ### Home directories -/

/-- Where a user is at home. -/
def homeOf? (st : State) (user : String) : Option String :=
  if user = "" then valueIn? st.bindings "HOME"
  else if user = "root" then some "/root"
  else none

/-- The word with the tilde at its front replaced, and in the value of a variable also those behind
colons. The first `skipped` parts are left out. -/
def withHomes (st : State) (inValue : Bool) : Bool → Nat → Word → Word
  | _, _, [] => []
  | _, skipped + 1, _ :: rest => withHomes st inValue false skipped rest
  | isFirst, 0, part :: rest =>
    let isName (p : Part) : Bool := p.plainChar?.any fun c => c != '/' && !(inValue && c == ':')
    let name := (rest.takeWhile isName).filterMap Part.plainChar?
    let isEnded := match rest.drop name.length with
      | [] => true
      | p :: _ => p.plainChar?.isSome
    match isFirst && isEnded && part.plainChar? == some '~', homeOf? st (String.ofList name) with
    | true, some home =>
      home.toList.map (Part.char · true) ++ withHomes st inValue false name.length rest
    | _, _ =>
      part :: withHomes st inValue (inValue && part.plainChar? == some ':') 0 rest

/-! ### Parameters -/

/-- Whether a parameter stands for all arguments. -/
def isAllArguments (name : String) : Bool := name == "@" || name == "*"

/-- The value of a parameter where it counts as set. -/
def setValue? (st : State) (name : String) (orEmpty : Bool) : Option String :=
  match st.value? name with
  | some v => if orEmpty && v.isEmpty then none else some v
  | none => if isAllArguments name && !orEmpty then some "" else none

/-- Whether a parameter stands for arguments each of which is a text of its own. -/
def standsForTexts (isList : Bool) (name : String) (quoted : Bool) : Bool :=
  isList && (name == "@" || (name == "*" && !quoted))

/-- The atoms of a parameter. Where a list of texts is needed, arguments are texts of their own. -/
def parameterAtoms (st : State) (isList : Bool) (name : String) (quoted : Bool) : List Atom :=
  if standsForTexts isList name quoted then atomsOfAll quoted st.arguments
  else atomsOf quoted ((st.value? name).getD "")

/-- Texts one after the other without a part at their front that a pattern describes. The part ends
in the first text, or takes all texts if it is to be long and is the whole of the first one. -/
def textsWithoutFront (p : Pattern) (longest : Bool) : List String → List String
  | [] => []
  | text :: rest =>
    if longest && p.accepts text.toList then [""]
    else String.ofList (p.dropFront longest text.toList) :: rest

/-- Texts one after the other, the last one first, without a part at their end, if there is one. The
part begins where a pattern describes the rest of a text. -/
def textsWithoutEnd? (p : Pattern) : List String → Option (List String)
  | [] => none
  | text :: rest =>
    let cs := p.dropEnd false text.toList
    if cs.length < text.length then some (String.ofList cs :: rest) else textsWithoutEnd? p rest

/-- Texts one after the other without the longest part at their end. The part begins in the first
text. -/
def textsWithoutLongEnd (p : Pattern) : List String → List String
  | [] => []
  | text :: rest =>
    let cs := p.dropEnd true text.toList
    if cs.length < text.length || p.accepts [] then [String.ofList cs] else text :: rest

/-- Refuses a parameter without a value if that is asked for. -/
def checkSet (name : String) : Act Unit := do
  let st ← get
  if st.hasOption 'u' && (st.value? name).isNone && !isAllArguments name then
    fault (name ++ ": parameter not set")

/-- A parameter with something done to its value; `expand` expands its word, whose characters may be
separators. -/
def changedAtoms (expand : Bool → Bool → Word → Act (List Atom)) (isList : Bool) (name : String)
    (quoted : Bool) (change : Change) (word : Word) : Act (List Atom) := do
  let st ← get
  let here : List Atom := parameterAtoms st isList name quoted
  let value := ((st.value? name).getD "").toList
  match change with
  | .unknown => fault "Bad substitution"
  | .none =>
    checkSet name
    return here
  | .length =>
    checkSet name
    return atomsOf quoted (toString ((st.value? name).getD "").length)
  | .otherwise orEmpty =>
    if (setValue? st name orEmpty).isSome then return here
    expand isList (!quoted) word
  | .instead orEmpty =>
    if (setValue? st name orEmpty).isNone then return []
    expand isList (!quoted) word
  | .assign orEmpty =>
    if (setValue? st name orEmpty).isSome then return here
    let text := joined (← expand false false word)
    if !isName name then fault (name ++ ": bad variable name")
    assign name text
    return atomsOf quoted text
  | .require orEmpty =>
    if (setValue? st name orEmpty).isSome then return here
    let text := joined (← expand false false word)
    let standard := if orEmpty then "parameter not set or null" else "parameter not set"
    fault (name ++ ": " ++ if word.isEmpty then standard else text)
  | .dropFront longest =>
    checkSet name
    let p := Pattern.ofMarked (marked (← expand false false word))
    if standsForTexts isList name quoted then
      return atomsOfAll quoted (textsWithoutFront p longest st.arguments)
    return atomsOf quoted (String.ofList (p.dropFront longest value))
  | .dropEnd longest =>
    checkSet name
    let p := Pattern.ofMarked (marked (← expand false false word))
    if standsForTexts isList name quoted then
      let texts :=
        if longest then textsWithoutLongEnd p st.arguments
        else if p.accepts [] then st.arguments
        else (textsWithoutEnd? p st.arguments.reverse).elim st.arguments List.reverse
      return atomsOfAll quoted texts
    return atomsOf quoted (String.ofList (p.dropEnd longest value))

/-! ### Words -/

/-- A text without line ends at its end. -/
def withoutLineEnds (s : String) : String :=
  String.ofList (s.toList.reverse.dropWhile (· = '\n')).reverse

/-- How deep parameters can be in one another. -/
def nestingLimit : Nat := 1000

/-- The atoms of the parts of a word. Where `isList` says so, a list of texts is needed; where
`splits` says so, the characters of the word are like those of a value. -/
def expandParts (outputOf : OutputOf) : Nat → Bool → Bool → Word → Act (List Atom)
  | 0, _, _, _ => fault "Bad substitution"
  | fuel + 1, isList, splits, w => do
    let atoms ← w.mapM fun part => do
      match part with
      | .char c quoted =>
        return [Atom.char c (if quoted then .quoted else if splits then .value else .plain)]
      | .quotes => return [Atom.anchor]
      | .parameter name quoted change word =>
        changedAtoms (expandParts outputOf fuel) isList name quoted change word
      | .output quoted command =>
        let text ← outputOf command
        return atomsOf quoted (withoutLineEnds (String.ofList (text.toList.filter (· ≠ '\x00'))))
      | .sum quoted terms =>
        let text := joined (← expandParts outputOf fuel false false terms)
        return atomsOf quoted (toString (← sumOf text).toInt)
    return atoms.flatten

/-- The text of a word that does not fall apart, with the marks of quotes. -/
def expandMarked (outputOf : OutputOf) (inValue : Bool) (w : Word) : Act Field := do
  let w := withHomes (← get) inValue true 0 w
  return marked (← expandParts outputOf nestingLimit false false w)

/-- The text of a word that does not fall apart. -/
def expandText (outputOf : OutputOf) (w : Word) : Act String := do
  return textOf (← expandMarked outputOf false w)

/-- The text of a word that is the value of a variable. -/
def expandValue (outputOf : OutputOf) (w : Word) : Act String := do
  return textOf (← expandMarked outputOf true w)

/-- The pattern that a word spells. -/
def expandPattern (outputOf : OutputOf) (w : Word) : Act Pattern := do
  return Pattern.ofMarked (← expandMarked outputOf false w)

/-! ### Paths -/

/-- Whether a text is a pattern that can describe more than itself. -/
def isPattern (f : Field) : Bool :=
  f.any (fun p => !p.2 && (p.1 == '*' || p.1 == '?' || p.1 == '[')) &&
    (Pattern.ofMarked f).isOpen

/-- Whether there is something at a path, be it a link that leads to nothing. -/
def isThere (files : FileTree) (cwd : Location) (path : String) : Bool :=
  match files.locateSelf cwd ⟨path⟩ with
  | .ok l => (files.entryAt? l).isSome
  | .error _ => false

/-- The names in a directory that a pattern describes. A dot in front must be asked for. -/
def matchingNames (files : FileTree) (cwd : Location) (directory : String) (f : Field) :
    List String :=
  match files.entry cwd ⟨if directory = "" then "." else directory⟩ with
  | .ok (l, .directory) =>
    let names := "." :: ".." :: files.namesAt l
    let hidden := (f.head?.map Prod.fst) == some '.'
    names.filter fun name =>
      (Pattern.ofMarked f).accepts name.toList && (hidden || !name.startsWith ".")
  | _ => []

/-- The paths that names and patterns describe, below a path. -/
def pathsBelow (files : FileTree) (cwd : Location) (before : String) : List Field → List String
  | [] => []
  | [f] =>
    if isPattern f then (matchingNames files cwd before f).map (before ++ ·)
    else
      let path := before ++ textOf f
      if isThere files cwd path then [path] else []
  | f :: rest =>
    if isPattern f then
      (matchingNames files cwd before f).flatMap fun name =>
        pathsBelow files cwd (before ++ name ++ "/") rest
    else pathsBelow files cwd (before ++ textOf f ++ "/") rest

/-- The parts of a text between slashes. -/
def partsOf (f : Field) : List Field := f.splitOnP fun p => p.1 == '/'

/-- The paths that a pattern describes, in order. -/
def matchingPaths (st : State) (f : Field) : List String :=
  (pathsBelow st.system.files st.task.cwd "" (partsOf f)).mergeSort (· ≤ ·)

/-- The texts of fields, patterns being replaced by the paths that they describe, if any. -/
def textsOf (st : State) (fields : List Field) : List String :=
  fields.flatMap fun f =>
    if st.hasOption 'f' || !isPattern f then [textOf f]
    else
      match matchingPaths st f with
      | [] => [textOf f]
      | paths => paths

/-- The texts that a word stands for where a list is needed. -/
def expandWord (outputOf : OutputOf) (w : Word) : Act (List String) := do
  let w := withHomes (← get) false true 0 w
  let atoms ← expandParts outputOf nestingLimit true false w
  let st ← get
  return textsOf st (fieldsOf st.separators atoms)

/-- The texts that words stand for. -/
def expandAll (outputOf : OutputOf) (words : List Word) : Act (List String) := do
  return (← words.mapM (expandWord outputOf)).flatten

end Shell

end ModuleBuild
