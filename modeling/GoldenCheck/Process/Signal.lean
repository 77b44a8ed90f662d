/-!
# Signals

The signals that one process can send to another, by their numbers. Each has a name, words for a
process that it has ended, and something that it does to a process that has made no provision
(`Signal.endsProcess`).
-/

namespace GoldenCheck

/-- A signal, as its number. -/
abbrev Signal := Nat

namespace Signal

/-- One more than the greatest signal. -/
def limit : Nat := 65

/-- The terminal was lost. -/
def hangUp : Signal := 1
/-- The user wants the process to end. -/
def interrupt : Signal := 2
/-- The user wants the process to end at once. -/
def quit : Signal := 3
/-- An operation on numbers has no result. -/
def arithmetic : Signal := 8
/-- The process ends, whatever provision it has made. -/
def kill : Signal := 9
/-- The process has used memory that it does not have. -/
def badMemory : Signal := 11
/-- Nobody reads what the process writes. -/
def brokenPipe : Signal := 13
/-- The process shall end. -/
def terminate : Signal := 15
/-- The process waits, whatever provision it has made. -/
def stop : Signal := 19

/-- The signals with names of their own: number, name, and words. -/
def table : List (Signal × String × String) :=
  [(1, "HUP", "Hangup"), (2, "INT", "Interrupt"), (3, "QUIT", "Quit"),
   (4, "ILL", "Illegal instruction"), (5, "TRAP", "Trace/breakpoint trap"),
   (6, "ABRT", "Aborted"), (7, "BUS", "Bus error"), (8, "FPE", "Floating point exception"),
   (9, "KILL", "Killed"), (10, "USR1", "User defined signal 1"),
   (11, "SEGV", "Segmentation fault"), (12, "USR2", "User defined signal 2"),
   (13, "PIPE", "Broken pipe"), (14, "ALRM", "Alarm clock"), (15, "TERM", "Terminated"),
   (16, "STKFLT", "Stack fault"), (17, "CHLD", "Child exited"), (18, "CONT", "Continued"),
   (19, "STOP", "Stopped (signal)"), (20, "TSTP", "Stopped"), (21, "TTIN", "Stopped (tty input)"),
   (22, "TTOU", "Stopped (tty output)"), (23, "URG", "Urgent I/O condition"),
   (24, "XCPU", "CPU time limit exceeded"), (25, "XFSZ", "File size limit exceeded"),
   (26, "VTALRM", "Virtual timer expired"), (27, "PROF", "Profiling timer expired"),
   (28, "WINCH", "Window changed"), (29, "IO", "I/O possible"), (30, "PWR", "Power failure"),
   (31, "SYS", "Bad system call")]

/-- The name of a signal, if it has one of its own. -/
def name? (s : Signal) : Option String := (table.lookup s).map (·.1)

/-- The first of the signals that have numbers instead of names. -/
def firstNumbered : Signal := 34

/-- The words for a process that a signal has ended. -/
def words (s : Signal) : String :=
  match table.lookup s with
  | some (_, words) => words
  | none =>
    if firstNumbered ≤ s then "Real-time signal " ++ toString (s - firstNumbered)
    else "Unknown signal " ++ toString s

/-- A process that has made no provision for the signal is not touched by it. -/
def isHarmless (s : Signal) : Bool := [17, 18, 23, 28].contains s

/-- A process that has made no provision for the signal waits. -/
def stops (s : Signal) : Bool := [19, 20, 21, 22].contains s

/-- A process that has made no provision for the signal ends. -/
def endsProcess (s : Signal) : Bool := !s.isHarmless && !s.stops

end Signal

end GoldenCheck
