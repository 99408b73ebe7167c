import ModuleBuild.Shell.Tool.Aliases
import ModuleBuild.Shell.Tool.Control
import ModuleBuild.Shell.Tool.Describe
import ModuleBuild.Shell.Tool.Input
import ModuleBuild.Shell.Tool.Jobs
import ModuleBuild.Shell.Tool.Place
import ModuleBuild.Shell.Tool.Print
import ModuleBuild.Shell.Tool.Rights
import ModuleBuild.Shell.Tool.Signals
import ModuleBuild.Shell.Tool.Test
import ModuleBuild.Shell.Tool.Variables

/-!
# Built-in tools

The built-in tools by their names, apart from those that run commands of the script themselves.

## Main definitions

* `Shell.Tool.times`, `Shell.Tool.ulimit` — tools with little to do
* `Shell.Tool.byName?` — the tool with a name
-/

namespace ModuleBuild

namespace Shell

namespace Tool

/-- Writes how long commands have run, which is never long enough to be counted. -/
def times (_ : List String) : Act Nat :=
  write 0 "0m0.000000s 0m0.000000s\n0m0.000000s 0m0.000000s\n"

/-- Writes a limit of what programs can use; there is none. -/
def ulimit (arguments : List String) : Act Nat := do
  let (_, arguments) ← optionsOf "HSatfdscmlpnvwr" arguments
  if arguments.isEmpty then write 0 "unlimited\n" else return 0

/-- The built-in tool with a name, unless it runs commands of the script. -/
def byName? (name : String) : Option (List String → Act Nat) :=
  match name with
  | ":" => some fun _ => return 0
  | "true" => some fun _ => return 0
  | "false" => some fun _ => return 1
  | "[" => some test
  | "alias" => some aliasNames
  | "bg" => some resume
  | "break" => some breaks
  | "cd" => some changeDirectory
  | "chdir" => some changeDirectory
  | "command" => some command
  | "continue" => some continues
  | "echo" => some echo
  | "exit" => some exit
  | "export" => some exportNames
  | "fg" => some resume
  | "getopts" => some getopts
  | "hash" => some hash
  | "jobs" => some jobs
  | "kill" => some kill
  | "local" => some localNames
  | "printf" => some printf
  | "pwd" => some tellDirectory
  | "read" => some readLine
  | "readonly" => some readonlyNames
  | "return" => some returns
  | "set" => some set
  | "shift" => some shift
  | "test" => some test
  | "times" => some times
  | "trap" => some trap
  | "type" => some typeOf
  | "ulimit" => some ulimit
  | "umask" => some umask
  | "unalias" => some unaliasNames
  | "unset" => some unset
  | "wait" => some wait
  | _ => none

end Tool

end Shell

end ModuleBuild
