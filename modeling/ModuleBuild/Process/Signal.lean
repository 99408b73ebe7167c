/-!
# Signals

A signal is a number that is sent to a program. Most signals end a program that makes no
arrangement for them.

## Main definitions

* `Signal.name`, `Signal.ofName?` — signals by their names
* `Signal.describe` — what is said about a program that a signal has ended
* `Signal.isFatal` — whether a signal ends a program
-/

namespace ModuleBuild

namespace Signal

/-- How many numbers there are, with that of no signal. -/
def count : Nat := 65

/-- The names of the signals that have one, each at its number. The name at zero is that of the end
of a program. -/
def namesInOrder : List String :=
  ["EXIT", "HUP", "INT", "QUIT", "ILL", "TRAP", "ABRT", "BUS", "FPE", "KILL", "USR1", "SEGV",
    "USR2", "PIPE", "ALRM", "TERM", "16", "CHLD", "CONT", "STOP", "TSTP", "TTIN", "TTOU", "URG",
    "XCPU", "XFSZ", "VTALRM", "PROF", "WINCH", "IO", "PWR", "SYS", "32", "33"]

/-- The name of a signal. -/
def name (n : Nat) : String :=
  match namesInOrder[n]? with
  | some name => name
  | none =>
    if n = 34 then "RTMIN"
    else if n = 64 then "RTMAX"
    else if n < 50 then s!"RTMIN+{n - 34}"
    else s!"RTMAX-{64 - n}"

/-- The number of a signal, from a least one on, by its name or its number. -/
def ofName? (least : Nat) (text : String) : Option Nat :=
  match text.toNat?.filter fun _ => text.toList.all Char.isDigit with
  | some n => if n < count then some n else none
  | none =>
    let numbers := (List.range count).drop least
    if text.isEmpty then none else numbers.find? fun n => name n == text.toUpper

/-- What is said about a program that a signal has ended. -/
def describe (n : Nat) : String :=
  match n with
  | 1 => "Hangup"
  | 2 => "Interrupt"
  | 3 => "Quit"
  | 4 => "Illegal instruction"
  | 5 => "Trace/breakpoint trap"
  | 6 => "Aborted"
  | 7 => "Bus error"
  | 8 => "Floating point exception"
  | 9 => "Killed"
  | 10 => "User defined signal 1"
  | 11 => "Segmentation fault"
  | 12 => "User defined signal 2"
  | 13 => "Broken pipe"
  | 14 => "Alarm clock"
  | 15 => "Terminated"
  | 16 => "Stack fault"
  | 24 => "CPU time limit exceeded"
  | 25 => "File size limit exceeded"
  | 26 => "Virtual timer expired"
  | 27 => "Profiling timer expired"
  | 29 => "I/O possible"
  | 30 => "Power failure"
  | 31 => "Bad system call"
  | n => if 34 ≤ n then s!"Real-time signal {n - 34}" else s!"Unknown signal {n}"

/-- Whether a signal ends a program that makes no arrangement for it. -/
def isFatal (n : Nat) : Bool :=
  0 < n && n ≤ 64 && !([17, 18, 19, 20, 21, 22, 23, 28].contains n)

/-- Whether the end of a program by a signal is worth a word. -/
def isWorthAWord (n : Nat) : Bool := n != 2 && n != 13

end Signal

end ModuleBuild
