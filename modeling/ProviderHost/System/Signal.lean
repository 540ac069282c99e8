import ProviderHost.Text.Decimal

/-!
# Signals

The signals of the system by their numbers: what they are called, how the end by one of them is
worded, and what each does to a process that has not said otherwise.
-/

namespace ProviderHost.SignalNumber

def bound : Nat := 65

def names : List Text :=
  ["EXIT", "HUP", "INT", "QUIT", "ILL", "TRAP", "ABRT", "BUS", "FPE", "KILL", "USR1", "SEGV",
    "USR2", "PIPE", "ALRM", "TERM", "16", "CHLD", "CONT", "STOP", "TSTP", "TTIN", "TTOU", "URG",
    "XCPU", "XFSZ", "VTALRM", "PROF", "WINCH", "IO", "PWR", "SYS", "32", "33"].map Text.ofString

/-- The first and the last of the signals that are numbered from either end. -/
def leastFree : Nat := 34
def greatestFree : Nat := 64

def name (n : Nat) : Text :=
  match names[n]? with
  | some name => name
  | none =>
    if n = leastFree then "RTMIN"
    else if n = greatestFree then "RTMAX"
    else if n < 50 then "RTMIN+" ++ Text.ofNat (n - leastFree)
    else "RTMAX-" ++ Text.ofNat (greatestFree - n)

def descriptions : List Text :=
  ["Unknown signal 0", "Hangup", "Interrupt", "Quit", "Illegal instruction",
    "Trace/breakpoint trap", "Aborted", "Bus error", "Floating point exception", "Killed",
    "User defined signal 1", "Segmentation fault", "User defined signal 2", "Broken pipe",
    "Alarm clock", "Terminated", "Stack fault", "Child exited", "Continued", "Stopped (signal)",
    "Stopped", "Stopped (tty input)", "Stopped (tty output)", "Urgent I/O condition",
    "CPU time limit exceeded", "File size limit exceeded", "Virtual timer expired",
    "Profiling timer expired", "Window changed", "I/O possible", "Power failure",
    "Bad system call"].map Text.ofString

def description (n : Nat) : Text :=
  match descriptions[n]? with
  | some text => text
  | none =>
    if leastFree ≤ n then "Real-time signal " ++ Text.ofNat (n - leastFree)
    else "Unknown signal " ++ Text.ofNat n

def interrupt : Nat := 2
def kill : Nat := 9
def brokenPipe : Nat := 13
def fileSize : Nat := 25
def terminate : Nat := 15
def child : Nat := 17
def resume : Nat := 18
def stop : Nat := 19

/-- What a signal does to a process that neither ignores nor catches it. -/
inductive Effect where
  | ends
  | nothing
  | stops
  /-- Would stop a process that has a terminal, and does nothing to one without. -/
  | suspends
  | resumes
  deriving DecidableEq, Repr

def effect (n : Nat) : Effect :=
  if n = child ∨ n = 23 ∨ n = 28 then .nothing
  else if n = resume then .resumes
  else if n = stop then .stops
  else if n = 20 ∨ n = 21 ∨ n = 22 then .suspends
  else .ends

end ProviderHost.SignalNumber
