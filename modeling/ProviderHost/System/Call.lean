import ProviderHost.Files
import ProviderHost.System.Limit

/-!
# Programs and their system calls

A program is what it asks of the system, one call after the other: a call, and for every reply
the rest of the program. Nothing else of a process shows, so a program may be given outright,
step by step, or as a whole interpreter.
-/

namespace ProviderHost

inductive ExitStatus where
  | exited (code : Nat)
  | signalled (signal : Nat)
  deriving DecidableEq, Repr

/-- The exit code of a process; 128 and the signal's number for one that a signal ended. -/
def ExitStatus.code : ExitStatus → Nat
  | .exited code => code
  | .signalled signal => 128 + signal

structure OpenMode where
  reads : Bool := false
  writes : Bool := false
  creates : Bool := false
  fresh : Bool := false
  empties : Bool := false
  appends : Bool := false
  deriving DecidableEq, Repr

inductive FileKind where
  | regular
  | directory
  | link
  | socket
  | pipe
  | device
  deriving DecidableEq, Repr

structure FileFacts where
  kind : FileKind
  mode : Nat
  size : Nat
  identity : Place
  time : Nat := 0
  deriving DecidableEq, Repr

inductive Disposition where
  | standard
  | ignored
  | caught
  deriving DecidableEq, Repr

/-- How long a process waits for one of its children. -/
inductive Waiting where
  | none
  | patient
  /-- Until a child has ended or a signal was caught. -/
  | alert
  deriving DecidableEq, Repr

inductive Forked where
  | child
  | parent (pid : Nat)
  deriving DecidableEq, Repr

inductive Waited where
  | ended (pid : Nat) (status : ExitStatus)
  | busy
  | noChild
  | interrupted (signal : Nat)
  deriving DecidableEq, Repr

/-- What a program asks of the system. -/
inductive Call where
  | fork
  /-- Runs another program in place of this one; comes back only when that fails. -/
  | execute (path : Text) (args environment : List Text)
  | openFile (path : Text) (mode : OpenMode)
  | close (fd : Nat)
  | duplicate (fd least : Nat) (closing : Bool)
  | duplicateTo (fd target : Nat)
  | pipe
  | read (fd count : Nat)
  | write (fd : Nat) (bytes : Text)
  | stat (path : Text)
  | statLink (path : Text)
  | statDescriptor (fd : Nat)
  | list (path : Text)
  | changeDirectory (path : Text)
  | workingDirectory
  | signal (target : Int) (number : Nat)
  /-- Says what to do about a signal, and answers what was done before. -/
  | handle (number : Nat) (d : Disposition)
  /-- The signals that were caught since this was last asked. -/
  | caught
  | wait (how : Waiting)
  | sleepUntil (time : Nat)
  | clock
  /-- The number of the process and that of its parent. -/
  | identity
  /-- Sets the permissions that new files lack, and answers the old ones. -/
  | mask (mode : Nat)
  | limit (r : Resource)
  | setLimit (r : Resource) (l : Limit)

abbrev Call.Reply : Call → Type
  | .fork => Forked
  | .execute _ _ _ => SystemFault
  | .openFile _ _ => Except SystemFault Nat
  | .close _ => Bool
  | .duplicate _ _ _ => Except SystemFault Nat
  | .duplicateTo _ _ => Except SystemFault Unit
  | .pipe => Except SystemFault (Nat × Nat)
  | .read _ _ => Except SystemFault Text
  | .write _ _ => Except SystemFault Unit
  | .stat _ | .statLink _ | .statDescriptor _ => Except SystemFault FileFacts
  | .list _ => Option (List Text)
  | .changeDirectory _ => Except SystemFault Unit
  | .workingDirectory => Place
  | .signal _ _ => Except SystemFault Unit
  | .handle _ _ => Disposition
  | .caught => List Nat
  | .wait _ => Waited
  | .sleepUntil _ => Unit
  | .clock => Nat
  | .identity => Nat × Nat
  | .mask _ => Nat
  | .limit _ => Limit
  | .setLimit _ _ => Except SystemFault Unit

inductive Program where
  | exit (code : Nat)
  | call (c : Call) (next : c.Reply → Program)

namespace Program

def say (fd : Nat) (text : Text) (next : Program) : Program := .call (.write fd text) fun _ => next

end Program

end ProviderHost
