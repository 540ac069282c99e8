import ProviderHost.System.Call
import ProviderHost.System.Pipe
import ProviderHost.System.Signal

/-!
# Processes

What the system keeps of each process, and of the files and pipes that processes have open. A
handle joins a descriptor to an open file; several handles, of several processes, may share one,
and with it the position at which it is read and written.
-/

namespace ProviderHost

inductive Endpoint where
  | reader (pipe : Nat)
  | writer (pipe : Nat)
  | file (place : Place)
  | directory (place : Place)
  | device (d : Device)
  deriving DecidableEq, Repr

structure OpenFile where
  id : Nat
  endpoint : Endpoint
  mode : OpenMode
  offset : Nat := 0
  deriving DecidableEq, Repr

structure Handle where
  fd : Nat
  source : Nat
  /-- Whether it is closed when the process runs another program. -/
  closing : Bool := false
  deriving DecidableEq, Repr

inductive ProcessStatus where
  | running (rest : Program)
  | dead (status : ExitStatus)

structure Process where
  pid : Nat
  group : Nat
  /-- The process that started it, or has taken it over. -/
  parent : Nat
  status : ProcessStatus
  /-- Its descriptors, in increasing order. -/
  handles : List Handle := []
  directory : Place
  mask : Nat := 0o022
  limits : List (Resource × Limit) := []
  /-- What it does about the signals for which it has said so. -/
  dispositions : List (Nat × Disposition) := []
  /-- The signals that were caught and not yet asked for, in the order of their arrival. -/
  caught : List Nat := []
  held : List Nat := []
  stopped : Bool := false
  /-- The signal by which it ends as soon as it has a turn. -/
  doom : Option Nat := none
  waits : Bool := false
  /-- Whether a signal was caught while its call was waiting. -/
  interrupted : Bool := false
  /-- Whether its write has gone on for a while already. -/
  again : Bool := false

namespace Process

def source? (p : Process) (fd : Nat) : Option Nat :=
  (p.handles.find? fun h => h.fd = fd).map (·.source)

def closeHandle (p : Process) (fd : Nat) : Process :=
  { p with handles := p.handles.filter fun h => h.fd ≠ fd }

def setHandle (p : Process) (h : Handle) : Process :=
  { p with
    handles := p.handles.takeWhile (·.fd < h.fd) ++ h :: p.handles.dropWhile (·.fd ≤ h.fd) }

def limit (p : Process) (r : Resource) : Limit :=
  match p.limits.find? fun e => e.1 = r with
  | some (_, l) => l
  | none => Limit.initial r

def setLimit (p : Process) (r : Resource) (l : Limit) : Process :=
  { p with limits := (r, l) :: p.limits.filter fun e => e.1 ≠ r }

def mayHave (p : Process) (fd : Nat) : Bool := (p.limit .handles).soft.all (fd < ·)

/-- The lowest descriptor from `least` on that is not among handles in increasing order. -/
def lowestFree (least : Nat) : List Handle → Nat
  | [] => least
  | h :: rest =>
    if h.fd < least then lowestFree least rest
    else if h.fd = least then lowestFree (least + 1) rest
    else least

def freeDescriptor? (p : Process) (least : Nat) : Option Nat :=
  let fd := lowestFree least p.handles
  if p.mayHave fd then some fd else none

def disposition (p : Process) (number : Nat) : Disposition :=
  match p.dispositions.find? fun e => e.1 = number with
  | some (_, d) => d
  | none => .standard

def setDisposition (p : Process) (number : Nat) (d : Disposition) : Process :=
  { p with dispositions := (number, d) :: p.dispositions.filter fun e => e.1 ≠ number }

/-- What is left of a process that runs another program: descriptors that are to be closed are,
and signals that were caught are not any more. -/
def renewed (p : Process) (program : Program) : Process :=
  { p with
    status := .running program
    handles := p.handles.filter fun h => ! h.closing
    dispositions := p.dispositions.filter fun e => e.2 = .ignored
    caught := []
    interrupted := false }

def isRunning (p : Process) : Bool :=
  match p.status with
  | .running _ => true
  | .dead _ => false

end Process

/-- The number of the process that collects those whose parent is gone. -/
def Process.caretaker : Nat := 1

def Process.host : Nat := 900

/-- The pipes between the host and a process that it started. -/
structure Connection where
  pid : Nat
  input : Nat
  output : Nat
  errors : Nat
  deriving DecidableEq, Repr

structure Change where
  place : Place
  node : Node
  time : Nat

/-- The system: its clock, its files, its processes, and what they have open. -/
structure System where
  /-- In milliseconds. -/
  clock : Nat := 0
  nextPid : Nat := 1000
  nextId : Nat := 0
  files : Files := {}
  /-- What processes have put into the tree of files, the latest first. -/
  changes : List Change := []
  processes : List Process := []
  pipes : List Pipe := []
  openFiles : List OpenFile := []
  connections : List Connection := []
  /-- The pipes of which the host holds the writing end. -/
  hostWrites : List Nat := []
  /-- The pipes of which the host holds the reading end. -/
  hostReads : List Nat := []
  /-- How many more descriptors the host may open, if there is a limit. -/
  room : Option Nat := none

namespace System

def process? (sys : System) (pid : Nat) : Option Process := sys.processes.find? (·.pid = pid)

def setProcess (sys : System) (p : Process) : System :=
  { sys with processes := sys.processes.map fun q => if q.pid = p.pid then p else q }

def pipe? (sys : System) (id : Nat) : Option Pipe := sys.pipes.find? (·.id = id)

def setPipe (sys : System) (pipe : Pipe) : System :=
  { sys with pipes := sys.pipes.map fun p => if p.id = pipe.id then pipe else p }

def openFile? (sys : System) (id : Nat) : Option OpenFile := sys.openFiles.find? (·.id = id)

def setOpenFile (sys : System) (f : OpenFile) : System :=
  { sys with openFiles := sys.openFiles.map fun g => if g.id = f.id then f else g }

def source? (sys : System) (p : Process) (fd : Nat) : Option OpenFile :=
  (p.source? fd).bind sys.openFile?

def addOpenFile (endpoint : Endpoint) (mode : OpenMode) (sys : System) : Nat × System :=
  (sys.nextId,
   { sys with nextId := sys.nextId + 1, openFiles := ⟨sys.nextId, endpoint, mode, 0⟩ :: sys.openFiles })

def addPipe (sys : System) : Nat × System :=
  (sys.nextId, { sys with nextId := sys.nextId + 1, pipes := { id := sys.nextId } :: sys.pipes })

def holds (sys : System) (e : Endpoint) : Bool :=
  let ids := (sys.openFiles.filter fun f => f.endpoint = e).map (·.id)
  sys.processes.any fun p => p.handles.any fun h => ids.contains h.source

def hasWriter (sys : System) (pipe : Nat) : Bool :=
  sys.hostWrites.contains pipe || sys.holds (.writer pipe)

def hasReader (sys : System) (pipe : Nat) : Bool :=
  sys.hostReads.contains pipe || sys.holds (.reader pipe)

/-- Forgets pipes of which nobody has an end any more. -/
def tidyPipes (sys : System) : System :=
  let pipe (f : OpenFile) : Option Nat :=
    match f.endpoint with
    | .reader id | .writer id => some id
    | _ => none
  let needed := sys.openFiles.filterMap pipe ++ sys.hostReads ++ sys.hostWrites
  { sys with pipes := sys.pipes.filter fun p => needed.contains p.id }

/-- Forgets those of some open files for which no handle stands any more. -/
def release (sys : System) (sources : List Nat) : System :=
  let isHeld (id : Nat) : Bool := sys.processes.any fun p => p.handles.any (·.source = id)
  match sources.filter (! isHeld ·) with
  | [] => sys
  | lost =>
    { sys with openFiles := sys.openFiles.filter fun f => ! lost.contains f.id }.tidyPipes

def putNode (place : Place) (node : Node) (sys : System) : System :=
  { sys with
    files := sys.files.put place node
    changes := ⟨place, node, sys.clock⟩ :: sys.changes.filter (·.place ≠ place) }

/-- When the file at a place was last written; what was there before all processes comes first. -/
def timeOf (sys : System) (place : Place) : Nat :=
  match sys.changes.find? (·.place = place) with
  | some change => change.time + 1
  | none => 0

end System

end ProviderHost
