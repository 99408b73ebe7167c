import ModuleBuild.Shell.Tool.Basic

/-!
# Built-in tools that leave commands

`exit` ends a script and `return` a function. `break` leaves loops and `continue` begins the next
round of one.

## Main definitions

* `Shell.Tool.exit`, `Shell.Tool.returns`, `Shell.Tool.breaks`, `Shell.Tool.continues` — the tools
-/

namespace ModuleBuild

namespace Shell

namespace Tool

/-- Ends the script with a status, or with that of the last command. What is run at a signal has the
status of the last command before it. -/
def exit (arguments : List String) : Act Nat := do
  let st ← get
  let status ← match arguments with
    | [] => pure (st.statusBefore.getD st.status)
    | status :: _ => wholeNumber status
  setStatus status
  throw .exit

/-- Leaves a function with a status, or with that of the last command. -/
def returns (arguments : List String) : Act Nat := do
  match arguments with
  | [] => pure ()
  | status :: _ => setStatus (← wholeNumber status)
  throw .returns

/-- How many loops are left; not more than there are. -/
def loopCount (arguments : List String) : Act Nat := do
  let count ← match arguments with
    | [] => pure 1
    | text :: _ =>
      let n ← wholeNumber text
      if n = 0 then illegalNumber text else pure n
  return min count (← get).loops

/-- Leaves loops. Outside of loops there is nothing to do. -/
def breaks (arguments : List String) : Act Nat := do
  let count ← loopCount arguments
  setStatus 0
  if count = 0 then return 0 else throw (.breaks count)

/-- Begins the next round of a loop. Outside of loops there is nothing to do. -/
def continues (arguments : List String) : Act Nat := do
  let count ← loopCount arguments
  setStatus 0
  if count = 0 then return 0 else throw (.continues count)

end Tool

end Shell

end ModuleBuild
