import ModuleBuild.Shell.Child
import ModuleBuild.Shell.Tool.Basic

/-!
# Built-in tools for commands that nobody waits for

Such commands are named by numbers of their own behind a percent sign, the last one also by further
signs. `wait` waits for their ends after all, and `jobs` tells what has become of them.

## Main definitions

* `Shell.Tool.jobNamed` — the command with a name
* `Shell.Tool.wait`, `Shell.Tool.jobs`, `Shell.Tool.resume` — the tools
-/

namespace ModuleBuild

namespace Shell

namespace Tool

/-- The command with a name among those that nobody waits for, or what is said if there is none.
Without a name it is the last one. -/
def jobNamed? (jobs : List SideJob) (name : Option String) : Except String SideJob :=
  let orElse (job : Option SideJob) (message : String) : Except String SideJob :=
    match job with
    | some job => .ok job
    | none => .error message
  match (name.getD "%").toList with
  | ['%'] => orElse jobs.head? "No current job"
  | ['%', '%'] => orElse jobs.head? "No current job"
  | ['%', '+'] => orElse jobs.head? "No current job"
  | ['%', '-'] => orElse (jobs.drop 1).head? "No previous job"
  | _ :: digits =>
    let place := ((String.ofList digits).toNat?).filter fun _ => digits.all Char.isDigit
    orElse (jobs.find? fun job => place == some job.place) ("No such job: " ++ name.getD "")
  | [] => .error "No such job: "

/-- The command with a name among those that nobody waits for. -/
def jobNamed (name : Option String) : Act SideJob := do
  match jobNamed? (← get).sideJobs name with
  | .ok job => return job
  | .error message => fault message

/-- Waits for commands by their numbers or names, or for all of them, and gives the status of the
last. -/
def wait (arguments : List String) : Act Nat := do
  let names ← withoutOptions arguments
  if names.isEmpty then waitForAll
  let mut status := 0
  for name in names do
    let number ←
      if name.startsWith "%" then pure (← jobNamed (some name)).number else wholeNumber name
    status ← waitForNumber number
  return status

/-- What has become of a command, in words. -/
def progress : Option Ending → String
  | none => "Running"
  | some (.code 0) => "Done"
  | some (.code n) => s!"Done({n})"
  | some (.signal n) => Signal.describe n

/-- Tells what has become of a command. One that has ended is forgotten. -/
def tellJob (withNumber : Bool) (job : SideJob) : Act Unit := do
  let st ← get
  let isAt (index : Nat) : Bool := st.sideJobs[index]?.any (·.place == job.place)
  let sign := if isAt 0 then "+" else if isAt 1 then "-" else " "
  let number := if withNumber then toString job.number ++ " " else ""
  let text := s!"[{job.place}] " ++ sign ++ " " ++ number ++ progress job.ending
  let _ ← print (text ++ String.ofList (List.replicate (33 - text.length) ' ') ++ "\n")
  if job.ending.isSome then
    modify fun st => { st with sideJobs := st.sideJobs.filter (·.place ≠ job.place) }

/-- Tells what has become of commands that nobody waits for, or writes their numbers. -/
def jobs (arguments : List String) : Act Nat := do
  let (options, names) ← optionsOf "lp" arguments
  let tell (job : SideJob) : Act Unit := do
    if lastOption options == some 'p' then
      let _ ← print (toString job.number ++ "\n")
    else tellJob (lastOption options == some 'l') job
  if names.isEmpty then
    for job in (← get).sideJobs do
      tell job
  for name in names do
    tell (← jobNamed (some name))
  return 0

/-- Goes on with a command that has been stopped; none can be. -/
def resume (arguments : List String) : Act Nat := do
  let name := (← withoutOptions arguments).head?
  let _ ← jobNamed name
  fault ("job " ++ name.getD "(null)" ++ " not created under job control")

end Tool

end Shell

end ModuleBuild
