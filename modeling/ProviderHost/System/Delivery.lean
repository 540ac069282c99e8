import ProviderHost.System.Process

/-!
# The end of processes, and signals

A process that ends lets go of everything it had open and is kept until its parent collects it.
A signal ends, stops or resumes a process, or is caught and kept until the process asks for it.
-/

namespace ProviderHost.System

def collect (pid : Nat) (sys : System) : System :=
  { sys with processes := sys.processes.filter fun p => p.pid ≠ pid }

def catchSignal (number : Nat) (p : Process) : Process :=
  { p with
    caught := if p.caught.contains number then p.caught else p.caught ++ [number]
    interrupted := p.interrupted || p.waits }

/-- What a parent's children are told when it ends: those that run get another parent, and those
that have ended are collected. -/
def adoptChildren (parent : Nat) (sys : System) : System :=
  { sys with
    processes := sys.processes.filterMap fun p =>
      if p.parent = parent then
        if p.isRunning then some { p with parent := Process.caretaker } else none
      else some p }

def finish (pid : Nat) (status : ExitStatus) (sys : System) : System :=
  match sys.process? pid with
  | none => sys
  | some p =>
    let sys := sys.adoptChildren pid
    let sys :=
      if p.parent = Process.caretaker then sys.collect pid
      else sys.setProcess { p with status := .dead status, handles := [] }
    let sys :=
      match sys.process? p.parent with
      | some parent =>
        if parent.isRunning ∧ parent.disposition SignalNumber.child = Disposition.caught then
          sys.setProcess (catchSignal SignalNumber.child parent)
        else sys
      | none => sys
    sys.release (p.handles.map (·.source))

/-- A signal ends a process: at once if that is the one which has its turn. -/
def doom (self number : Nat) (p : Process) (sys : System) : System :=
  if p.pid = self then sys.finish p.pid (.signalled number)
  else sys.setProcess { p with doom := some (p.doom.getD number) }

def deliverNow (self number : Nat) (sys : System) (p : Process) : System :=
  match p.disposition number with
  | .ignored => sys
  | .caught => sys.setProcess (catchSignal number p)
  | .standard =>
    match SignalNumber.effect number with
    | .ends => sys.doom self number p
    | .stops => sys.setProcess { p with stopped := true }
    | .nothing | .suspends | .resumes => sys

def resume (self : Nat) (sys : System) (p : Process) : System :=
  let sys := sys.setProcess { p with stopped := false, held := [] }
  let held := p.held.mergeSort
  held.foldl
    (fun sys number =>
      match sys.process? p.pid with
      | some p => if p.isRunning then sys.deliverNow self number p else sys
      | none => sys)
    sys

def deliver (self number pid : Nat) (sys : System) : System :=
  match sys.process? pid with
  | none => sys
  | some p =>
    if ¬ p.isRunning ∨ number = 0 then sys
    else if number = SignalNumber.kill then sys.doom self number p
    else if number = SignalNumber.stop then sys.setProcess { p with stopped := true }
    else
      let sys := if number = SignalNumber.resume then sys.resume self p else sys
      match sys.process? pid with
      | none => sys
      | some p =>
        if p.stopped then
          if p.held.contains number then sys
          else sys.setProcess { p with held := p.held ++ [number] }
        else sys.deliverNow self number p

/-- The processes that a number names: one process, or a group for a negative number. -/
def targets (sys : System) (self group : Nat) (target : Int) : List Nat :=
  let named (p : Process) : Bool :=
    if 0 < target then p.pid = target.toNat
    else if target = 0 then p.group = group
    else if target = -1 then p.pid ≠ self
    else p.group = (-target).toNat
  (sys.processes.filter named).map (·.pid)

/-- Sends a signal; answers whether anything is there to receive it. -/
def send (sys : System) (self group : Nat) (target : Int) (number : Nat) : Bool × System :=
  let receivers := sys.targets self group target
  (receivers ≠ [], receivers.foldl (fun sys pid => sys.deliver self number pid) sys)

end ProviderHost.System
