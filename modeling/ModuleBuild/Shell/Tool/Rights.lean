import ModuleBuild.Shell.Tool.Basic

/-!
# The built-in tool for the rights of new files

New files are not given the rights in a mask. `umask` writes the mask, or changes it to a number in
base eight or by letters, which name rights that are left.

## Main definitions

* `Shell.Tool.octal?` — a mask as a number
* `Shell.Tool.rightsBy?` — the rights that letters leave
* `Shell.Tool.umask` — the tool
-/

namespace ModuleBuild

namespace Shell

namespace Tool

/-! ### Numbers -/

/-- The number that digits in base eight spell. -/
def octal? (text : String) : Option Nat :=
  if text.isEmpty || !text.toList.all isOctal then none
  else some (text.toList.foldl (fun n c => 8 * n + (c.toNat - 48)) 0)

/-! ### Letters -/

/-- Who has rights: the last bit of a group of three for each. -/
def holderBits (c : Char) : Nat :=
  match c with
  | 'a' => 0o111
  | 'u' => 0o100
  | 'g' => 0o010
  | 'o' => 0o001
  | _ => 0

/-- The rights that a letter names, `old` being those that files are given. -/
def rightBits (old : Nat) (c : Char) : Nat :=
  match c with
  | 'r' => 4
  | 'w' => 2
  | 'x' => 1
  | 'X' => if old &&& 0o111 = 0 then 0 else 1
  | 'u' => old / 64
  | 'g' => old / 8 % 8
  | 'o' => old % 8
  | _ => 0

/-- Rights that are changed by an operator. -/
def operated (operator : Char) (holders bits rights : Nat) : Nat :=
  let named := holders * bits
  match operator with
  | '+' => rights ||| named
  | '-' => rights &&& (0o777 ^^^ named)
  | _ => named ||| rights &&& (0o777 ^^^ holders * 7)

/-- Whether a character is an operator between those who have rights and the rights. -/
def isRightOperator (c : Char) : Bool := c == '=' || c == '+' || c == '-'

/-- The rights after the changes that letters name, `old` being those before all of them and
`holders` those who have been named; `fuel` bounds the number of changes. -/
def changedRights (old : Nat) : Nat → Nat → Nat → List Char → Option Nat
  | _, _, rights, [] => some rights
  | 0, _, _, _ => none
  | fuel + 1, holders, rights, cs =>
    let names := cs.takeWhile fun c => holderBits c ≠ 0
    let named := names.foldl (fun n c => n ||| holderBits c) holders
    let holders := if named = 0 then 0o111 else named
    match cs.drop names.length with
    | [] => none
    | operator :: rest =>
      if !isRightOperator operator then none
      else
        let letters := rest.takeWhile "rwxugoXs".toList.contains
        let bits := letters.foldl (fun n c => n ||| rightBits old c) 0
        let rights := operated operator holders bits rights
        match rest.drop letters.length with
        | [] => some rights
        | ',' :: rest => changedRights old fuel 0 rights rest
        | c :: rest =>
          if isRightOperator c then changedRights old fuel holders rights (c :: rest) else none

/-- The rights that files are given as letters say, `old` being those before. -/
def rightsBy? (old : Nat) (text : String) : Option Nat :=
  changedRights old text.length 0 old text.toList

/-- Rights by their letters. -/
def rightsText (rights : Nat) : String :=
  let letters (n : Nat) : String :=
    String.ofList <| ([(4, 'r'), (2, 'w'), (1, 'x')].filter fun p => n &&& p.1 ≠ 0).map Prod.snd
  "u=" ++ letters (rights / 64) ++ ",g=" ++ letters (rights / 8 % 8) ++ ",o=" ++
    letters (rights % 8)

/-! ### The tool -/

/-- The number of all rights. -/
def allRights : Nat := 0o777

/-- Writes or changes the rights that new files are not given. -/
def umask (arguments : List String) : Act Nat := do
  let (options, arguments) ← optionsOf "S" arguments
  let st ← get
  let change (mask : Nat) : Act Nat := do
    MonadStateOf.set { st with mask }
    return 0
  match arguments with
  | [] =>
    if options.isEmpty then
      let digits := Nat.toDigits 8 st.mask
      write 0 (String.ofList (List.replicate (4 - digits.length) '0' ++ digits) ++ "\n")
    else write 0 (rightsText (allRights - st.mask) ++ "\n")
  | text :: _ =>
    if text.toList.head?.any Char.isDigit then
      match octal? text with
      | some mask => change (mask % (allRights + 1))
      | none => illegalNumber text
    else
      match rightsBy? (allRights - st.mask) text with
      | some rights => change (allRights - rights)
      | none => fault ("Illegal mode: " ++ text)

end Tool

end Shell

end ModuleBuild
