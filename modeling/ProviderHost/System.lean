import ProviderHost.Kernel
import ProviderHost.System.Schedule

/-!
# A system in memory

A kernel in which the processes run that the host starts. Each has a group of its own and three
pipes to the host, and runs on whenever the host waits for something: what the host does at once
is done before any of them has its turn.
-/

namespace ProviderHost

def Connection.pipe (c : Connection) : Stream → Nat
  | .out => c.output
  | .err => c.errors

namespace System

/-- The descriptors that starting a process takes: the two ends of four pipes. -/
def descriptorsNeeded : Nat := 8

def connection? (sys : System) (pid : Nat) : Option Connection :=
  sys.connections.find? (·.pid = pid)

/-- Makes a pipe that leads from the host or to it, and an open file for the other end. -/
def connect (inward : Bool) (sys : System) : Nat × Nat × System :=
  let (pipe, sys) := sys.addPipe
  let (source, sys) :=
    if inward then sys.addOpenFile (.reader pipe) { reads := true }
    else sys.addOpenFile (.writer pipe) { writes := true }
  (pipe, source,
   if inward then { sys with hostWrites := pipe :: sys.hostWrites }
   else { sys with hostReads := pipe :: sys.hostReads })

def start (files : Files) (launch : Launch) (env : List Text) (sys : System) :
    Except LaunchFault Started × System :=
  if sys.room.any (· < descriptorsNeeded) then (.error (.noPipes "Too many open files"), sys)
  else
    let pid := sys.nextPid
    let sys :=
      { sys with
        nextPid := pid + 1
        files := sys.changes.foldr (fun (c : Change) files => files.put c.place c.node) files }
    let (input, source₀, sys) := sys.connect true
    let (output, source₁, sys) := sys.connect false
    let (errors, source₂, sys) := sys.connect false
    let args := (launch.executable :: launch.args).map Files.effective
    let loaded := Program.load sys.files launch.executable args (env.map Files.effective)
    let p : Process :=
      { pid := pid
        group := pid
        parent := Process.host
        status :=
          match loaded with
          | .ok program => .running program
          | .error _ => .dead (.exited 127)
        handles :=
          match loaded with
          | .ok _ => [⟨0, source₀, false⟩, ⟨1, source₁, false⟩, ⟨2, source₂, false⟩]
          | .error _ => []
        directory := files.workingDirectory }
    let sys :=
      { sys with
        processes := sys.processes ++ [p]
        connections := ⟨pid, input, output, errors⟩ :: sys.connections }
    match loaded with
    | .error cause => (.ok ⟨pid, some cause⟩, sys.release [source₀, source₁, source₂])
    | .ok _ => (.ok ⟨pid, none⟩, sys)

def poll (pid : Nat) (sys : System) : Poll × System :=
  match sys.process? pid with
  | some { status := .running _, .. } => (.alive, sys)
  | some { status := .dead status, .. } => (.dead status, sys.collect pid)
  | none => (.gone, sys)

def isOver (pid : Nat) (sys : System) : Bool := (sys.process? pid).all (! ·.isRunning)

/-- How long the host waits for a process that does nothing. -/
def patience : Nat := 10000

/-- Every message finds room here, and a process that does not end in good time never does. -/
def ends : Wait → System → Bool
  | .room _, _ => true
  | .death pid, sys => isOver pid (sys.elapseUntil (isOver pid) patience)

def reap (pid : Nat) (sys : System) : System := (sys.elapseUntil (isOver pid) patience).collect pid

def numberOf : Signal → Nat
  | .term => SignalNumber.terminate
  | .kill => SignalNumber.kill

def signal (target : Int) (s : Signal) (sys : System) : Bool × System :=
  sys.send Process.host 0 target (numberOf s)

def readPipe (id count : Nat) (sys : System) : Text × System :=
  match sys.pipe? id with
  | none => ([], sys)
  | some pipe =>
    match pipe.read count with
    | (bytes, pipe) => (bytes, sys.setPipe pipe)

def maxRead : Nat := Pipe.slotSize * Pipe.slotCount

def read (pid : Nat) (stream : Stream) (sys : System) : List ReadAnswer × System :=
  match sys.connection? pid with
  | none => ([.failed], sys)
  | some c =>
    match sys.readPipe (c.pipe stream) maxRead with
    | ([], sys) => ([if sys.hasWriter (c.pipe stream) then .nothingYet else .ended], sys)
    | (bytes, sys) =>
      let sys := sys.proceed
      let isEmpty := (sys.pipe? (c.pipe stream)).all (·.slots.isEmpty)
      ([.bytes bytes, if isEmpty && ! sys.hasWriter (c.pipe stream) then .ended else .nothingYet],
        sys)

def closeInput (pid : Nat) (sys : System) : System :=
  match sys.connection? pid with
  | none => sys
  | some c =>
    { sys with hostWrites := sys.hostWrites.filter (· ≠ c.input) }.tidyPipes

/-- Closes the host's ends of a process's output streams. -/
def closeOutputs (pid : Nat) (sys : System) : System :=
  match sys.connection? pid with
  | none => sys
  | some c =>
    { sys with hostReads := sys.hostReads.filter fun id => id ≠ c.output ∧ id ≠ c.errors }.tidyPipes

/-- Writes into a pipe as long as anybody reads from it; answers how many bytes did not go in. -/
def writePipe (id : Nat) (again : Bool) (bytes : Text) : Nat → System → Nat × System
  | 0, sys => (bytes.length, sys)
  | limit + 1, sys =>
    if ¬ sys.hasReader id then (bytes.length, sys)
    else
      match sys.pipe? id with
      | none => (bytes.length, sys)
      | some pipe =>
        match pipe.write bytes again with
        | (pipe, []) => (0, sys.setPipe pipe)
        | (pipe, rest) => writePipe id true rest limit (sys.setPipe pipe).tick

/-- Writes to a process; answers how many bytes it took, or nothing if nobody reads them. -/
def write (pid : Nat) (bytes : Text) (sys : System) : Option Nat × System :=
  match sys.connection? pid with
  | none => (none, sys)
  | some c =>
    if ¬ sys.hostWrites.contains c.input ∨ ¬ sys.hasReader c.input then (none, sys)
    else
      match sys.writePipe c.input false bytes patience with
      | (left, sys) =>
        (if left = bytes.length ∧ left ≠ 0 then none else some (bytes.length - left), sys)

/-- Reads from a pipe to the end of a line, or to its end; what was read comes in reverse. -/
def readLineFrom (id : Nat) (line : Text) : Nat → System → Text × System
  | 0, sys => (line, sys)
  | limit + 1, sys =>
    match sys.pipe? id with
    | none => (line, sys)
    | some pipe =>
      let held := pipe.held
      let front := held.takeWhile (· != Byte.newline)
      if front.length < held.length then
        let (bytes, sys) := sys.readPipe id (front.length + 1)
        (bytes.reverse ++ line, sys)
      else if held = [] ∧ ¬ sys.hasWriter id then (line, sys)
      else
        let (bytes, sys) := sys.readPipe id front.length
        let sys := if bytes = [] then sys.tick else sys.proceed
        readLineFrom id (bytes.reverse ++ line) limit sys

def readLine (pid : Nat) (stream : Stream) (sys : System) : Text × System :=
  match sys.connection? pid with
  | none => ([], sys)
  | some c =>
    let (line, sys) := sys.readLineFrom (c.pipe stream) [] patience
    (line.reverse, sys)

/-- Reads a pipe to its end; what was read comes in parts, the latest first. -/
def readAllFrom (id : Nat) (parts : List Text) : Nat → System → List Text × System
  | 0, sys => (parts, sys)
  | limit + 1, sys =>
    match sys.readPipe id maxRead with
    | ([], sys) =>
      if sys.hasWriter id then readAllFrom id parts limit sys.tick else (parts, sys)
    | (bytes, sys) => readAllFrom id (bytes :: parts) limit sys.proceed

def readToEnd (pid : Nat) (stream : Stream) (sys : System) : Text × System :=
  match sys.connection? pid with
  | none => ([], sys)
  | some c =>
    let (parts, sys) := sys.readAllFrom (c.pipe stream) [] patience
    (parts.reverse.flatten, sys)

/-- Nobody listens: a request for the health of a provider is refused. -/
def noListener (u : Url) : Text := "HTTP connect to " ++ u.print ++ " failed: Connection refused"

/-- A process that does not speak the protocol lets every request run into its deadline. -/
def unanswered (method : String) (timeout : Nat) : Fault :=
  { category := .requestTimeout
    message := method ++ " timed out after " ++ Text.ofNat timeout ++ " ms"
    code := "request_timeout" }

instance : Kernel System where
  now := System.clock
  sleep d sys := { elapse (max d 1) sys with clock := sys.clock + max d 1 }
  start := start
  poll := poll
  ends := ends
  reap := reap
  signalGroup pid s sys := signal (-(pid : Int)) s sys
  signalProcess pid s sys := signal pid s sys
  read := read
  closeInput := closeInput
  closeOutputs := closeOutputs
  healthStatus u _ _ sys := (.error (noListener u), sys)
  greet _ timeout sys := (.error (unanswered "initialize" timeout), elapse timeout sys)
  listTools _ timeout sys := (.error (unanswered "listTools" timeout), elapse timeout sys)
  callTool _ _ _ timeout sys := (.error (unanswered "callTool" timeout), elapse timeout sys)
  dismiss _ timeout sys := (.error (unanswered "shutdown" timeout), elapse timeout sys)
  now_le_poll pid sys := by
    unfold poll
    split <;> exact Nat.le_refl _
  now_lt_sleep d sys := by
    show sys.clock < sys.clock + max d 1
    omega
  now_le_healthStatus _ _ _ _ := Nat.le_refl _

end System

end ProviderHost
