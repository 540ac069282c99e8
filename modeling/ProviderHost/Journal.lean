import ProviderHost.Fault

/-!
# The journal

What the host reports while it works. A journal keeps the entries at or above its threshold;
an entry is printed as one line with a time stamp, its level, the context and the message.
-/

namespace ProviderHost

inductive Level where
  | debug
  | info
  | warn
  | error
  deriving DecidableEq, Repr

namespace Level

def rank : Level → Int
  | .debug => 0
  | .info => 1
  | .warn => 2
  | .error => 3

def name : Level → Text
  | .debug => "debug"
  | .info => "info"
  | .warn => "warn"
  | .error => "error"

def parse? (t : Text) : Option Level :=
  [Level.debug, .info, .warn, .error].find? fun level => level.name = t

/-- How the level of a rank is printed: five letters, so that the messages line up. -/
def tag (rank : Int) : Text :=
  if rank = 0 then "DEBUG"
  else if rank = 1 then "INFO "
  else if rank = 2 then "WARN "
  else if rank = 3 then "ERROR"
  else "UNKNOWN"

theorem parse?_name (level : Level) : parse? level.name = some level := by
  cases level <;> decide

end Level

structure JournalEntry where
  rank : Int
  context : Text
  message : Text
  deriving DecidableEq, Repr

/-- The context in brackets, and nothing for an empty one. -/
def JournalEntry.label (e : JournalEntry) : Text :=
  if e.context = [] then [] else ("[" ++ e.context ++ "] " : Text)

def JournalEntry.line (stamp : Text) (e : JournalEntry) : Text :=
  stamp ++ " [" ++ Level.tag e.rank ++ "] " ++ e.label ++ e.message ++ "\n"

/-- The entries so far, oldest first, and what is kept from now on. -/
structure Journal where
  /-- What the host is busy with; printed in front of every message unless empty. -/
  context : Text := []
  threshold : Level := .info
  entries : List JournalEntry := []
  deriving DecidableEq, Repr

namespace Journal

def reportAt (rank : Int) (message : Text) (j : Journal) : Journal :=
  if rank < j.threshold.rank then j
  else { j with entries := j.entries ++ [⟨rank, j.context, message⟩] }

def report (level : Level) (message : Text) (j : Journal) : Journal :=
  j.reportAt level.rank message

def debug (message : Text) (j : Journal) : Journal := j.report .debug message
def info (message : Text) (j : Journal) : Journal := j.report .info message
def warn (message : Text) (j : Journal) : Journal := j.report .warn message
def error (message : Text) (j : Journal) : Journal := j.report .error message

def note (message : Option Text) (j : Journal) : Journal :=
  match message with
  | some message => j.debug message
  | none => j

def print (stamp : Text) (j : Journal) : Text := (j.entries.map (·.line stamp)).flatten

end Journal

end ProviderHost
