/-!
# Signals

Messages that processes send each other: most end the process that gets them, unless it ignores or
handles them.
-/

namespace StagedBuild.Process

/-- A signal, by its number. -/
abbrev Signal := Nat

namespace Signal

/-- The names of the signals that have some; zero is the end of the shell. -/
def names : List (String × Signal) :=
  [("EXIT", 0), ("HUP", 1), ("INT", 2), ("QUIT", 3), ("ILL", 4), ("TRAP", 5), ("ABRT", 6),
   ("BUS", 7), ("FPE", 8), ("KILL", 9), ("USR1", 10), ("SEGV", 11), ("USR2", 12), ("PIPE", 13),
   ("ALRM", 14), ("TERM", 15), ("STKFLT", 16), ("CHLD", 17), ("CONT", 18), ("STOP", 19),
   ("TSTP", 20), ("TTIN", 21), ("TTOU", 22), ("URG", 23), ("XCPU", 24), ("XFSZ", 25),
   ("VTALRM", 26), ("PROF", 27), ("WINCH", 28), ("IO", 29), ("PWR", 30), ("SYS", 31),
   ("RTMIN", 34), ("RTMAX", 64)]

/-- The greatest number of a signal. -/
def last : Nat := 64

/-- What a process does about a signal that it neither ignores nor handles. -/
inductive Effect where
  | nothing
  | endsProcess
  | stops
  | continues
  deriving DecidableEq, Repr

/-- What a process does about a signal that it neither ignores nor handles. -/
def effect (signal : Signal) : Effect :=
  if [0, 17, 23, 28].contains signal then .nothing
  else if signal = 18 then .continues
  else if [19, 20, 21, 22].contains signal then .stops
  else .endsProcess

/-- Nobody can ignore or handle it. -/
def isCertain (signal : Signal) : Bool :=
  signal == 9 || signal == 19

/-- What is said of a process that a signal ended. -/
def description (signal : Signal) : String :=
  let texts : List (Nat × String) :=
    [(1, "Hangup"), (2, "Interrupt"), (3, "Quit"), (4, "Illegal instruction"),
     (5, "Trace/breakpoint trap"), (6, "Aborted"), (7, "Bus error"),
     (8, "Floating point exception"), (9, "Killed"), (10, "User defined signal 1"),
     (11, "Segmentation fault"), (12, "User defined signal 2"), (13, "Broken pipe"),
     (14, "Alarm clock"), (15, "Terminated"), (16, "Stack fault"), (17, "Child exited"),
     (18, "Continued"), (19, "Stopped (signal)"), (20, "Stopped"), (21, "Stopped (tty input)"),
     (22, "Stopped (tty output)"), (23, "Urgent I/O condition"), (24, "CPU time limit exceeded"),
     (25, "File size limit exceeded"), (26, "Virtual timer expired"),
     (27, "Profiling timer expired"), (28, "Window changed"), (29, "I/O possible"),
     (30, "Power failure"), (31, "Bad system call")]
  match texts.lookup signal with
  | some text => text
  | none =>
    if 34 ≤ signal ∧ signal ≤ 64 then "Real-time signal " ++ toString (signal - 34)
    else "Unknown signal " ++ toString signal

end Signal

end StagedBuild.Process
