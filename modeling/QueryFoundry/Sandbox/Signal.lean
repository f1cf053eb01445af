import QueryFoundry.Text.Octets

/-!
# Signals

The numbers of the signals, their names and what is said about a process that one of them ended.
-/

namespace QueryFoundry.Sandbox.Signal

open Text (Octets)

/-- The signals with their names and descriptions. -/
def all : List (Nat × Octets × Octets) :=
  [(1, "HUP", "Hangup"), (2, "INT", "Interrupt"), (3, "QUIT", "Quit"),
    (4, "ILL", "Illegal instruction"), (5, "TRAP", "Trace/breakpoint trap"),
    (6, "ABRT", "Aborted"), (7, "BUS", "Bus error"), (8, "FPE", "Floating point exception"),
    (9, "KILL", "Killed"), (10, "USR1", "User defined signal 1"),
    (11, "SEGV", "Segmentation fault"), (12, "USR2", "User defined signal 2"),
    (13, "PIPE", "Broken pipe"), (14, "ALRM", "Alarm clock"), (15, "TERM", "Terminated"),
    (16, "16", "Stack fault"), (17, "CHLD", "Child exited"), (18, "CONT", "Continued"),
    (19, "STOP", "Stopped (signal)"), (20, "TSTP", "Stopped"), (21, "TTIN", "Stopped (tty input)"),
    (22, "TTOU", "Stopped (tty output)"), (23, "URG", "Urgent I/O condition"),
    (24, "XCPU", "CPU time limit exceeded"), (25, "XFSZ", "File size limit exceeded"),
    (26, "VTALRM", "Virtual timer expired"), (27, "PROF", "Profiling timer expired"),
    (28, "WINCH", "Window changed"), (29, "IO", "I/O possible"), (30, "PWR", "Power failure"),
    (31, "SYS", "Bad system call")]

/-- The number that a text names, as a number or by a name with or without its usual start. -/
def ofText? (text : Octets) : Option Nat :=
  match text.toNat? with
  | some number => if number ≤ 64 then some number else none
  | none =>
      let upper := text.toUpper
      let name := if upper.startsWith "SIG" then (upper.drop 3).toString else upper
      if name == "EXIT" then some 0
      else if name == "IOT" then some 6
      else if name == "POLL" then some 29
      else (all.find? fun signal => signal.2.1 == name).map Prod.fst

/-- The name of a signal behind those that have a meaning of their own, counted from the nearer end.
-/
def realTimeName (number : Nat) : Octets :=
  if number ≤ 33 then toString number
  else if number == 34 then "RTMIN"
  else if number ≤ 49 then "RTMIN+" ++ toString (number - 34)
  else if number < 64 then "RTMAX-" ++ toString (64 - number)
  else "RTMAX"

/-- The name of a signal. -/
def name (number : Nat) : Octets :=
  match all.find? (·.1 == number) with
  | some (_, name, _) => name
  | none => if number == 0 then "0" else realTimeName number

/-- The signal that a text names by its number or by its bare name. -/
def named? (text : Octets) : Option Nat :=
  let isNumber := !text.isEmpty && text.toList.all Char.isDigit
  if isNumber then
    match text.toNat? with
    | some number => if number ≤ 64 then some number else none
    | none => none
  else
    (List.range 65).find? fun number => 0 < number && name number == text.toUpper

/-- What is said about a process that a signal ended. -/
def description (number : Nat) : Octets :=
  match all.find? (·.1 == number) with
  | some (_, _, text) => text
  | none =>
      if 34 ≤ number then "Real-time signal " ++ toString (number - 34)
      else "Unknown signal " ++ toString number

end QueryFoundry.Sandbox.Signal
