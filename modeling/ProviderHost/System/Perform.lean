import ProviderHost.System.Delivery
import ProviderHost.System.Load

/-!
# System calls

What each call does and answers. A call that has to wait has no answer yet, and is made again
when the process has its next turn.
-/

namespace ProviderHost

/-- What comes of a call: its answer, or nothing for a call that has to wait. -/
abbrev Answer (α : Type) := Option (α × System)

namespace System

def filesOf (sys : System) (p : Process) : Files :=
  { sys.files with workingDirectory := p.directory }

/-! ### Files -/

def openEndpoint (sys : System) (p : Process) (e : Endpoint) (mode : OpenMode) :
    Except SystemFault Nat × System :=
  match p.freeDescriptor? 0 with
  | none => (.error .tooManyOpen, sys)
  | some fd =>
    let (id, sys) := sys.addOpenFile e mode
    (.ok fd, sys.setProcess (p.setHandle ⟨fd, id, false⟩))

/-- Opens what another descriptor of a process stands for. -/
def reopen (sys : System) (p : Process) (fd : Nat) (mode : OpenMode) :
    Except SystemFault Nat × System :=
  match sys.source? p fd with
  | none => (.error .missing, sys)
  | some f =>
    match f.endpoint with
    | .reader id | .writer id =>
      sys.openEndpoint p (if mode.writes then .writer id else .reader id) mode
    | .file place =>
      let sys :=
        match mode.empties, sys.files.node? place with
        | true, some (.file m _) => sys.putNode place (.file m [])
        | _, _ => sys
      sys.openEndpoint p (.file place) mode
    | e => sys.openEndpoint p e mode

def openPath (sys : System) (p : Process) (path : Text) (mode : OpenMode) :
    Except SystemFault Nat × System :=
  match (sys.filesOf p).find (! mode.fresh) path with
  | .error cause => (.error cause, sys)
  | .ok (.present place node) =>
    if mode.fresh then (.error .exists, sys)
    else
      match node with
      | .file m _ =>
        let sys := if mode.empties then sys.putNode place (.file m []) else sys
        sys.openEndpoint p (.file place) mode
      | .program _ =>
        if mode.writes then (.error .denied, sys) else sys.openEndpoint p (.file place) mode
      | .directory _ =>
        if mode.writes then (.error .isDirectory, sys)
        else sys.openEndpoint p (.directory place) mode
      | .device .terminal | .socket => (.error .noDevice, sys)
      | .device (.descriptor fd) => sys.reopen p fd mode
      | .device d => sys.openEndpoint p (.device d) mode
      | .link _ => (.error .tooManyLinks, sys)
  | .ok (.absent parent name) =>
    if ¬ mode.creates then (.error .missing, sys)
    else if (Files.effective path).getLast? = some Byte.slash then (.error .isDirectory, sys)
    else
      let place := parent ++ [name]
      let sys := sys.putNode place (.file (0o666 &&& (0o777 ^^^ (p.mask &&& 0o777))) [])
      sys.openEndpoint p (.file place) mode

def factsOf (sys : System) (place : Place) (node : Node) : FileFacts :=
  let facts (kind : FileKind) (mode size : Nat) : FileFacts :=
    ⟨kind, mode, size, place, sys.timeOf place⟩
  match node with
  | .file mode content => facts .regular mode content.length
  | .program name => ⟨.regular, 0o755, 1000, [name], 0⟩
  | .directory _ => facts .directory 0o755 4096
  | .link target => facts .link 0o777 target.length
  | .socket => facts .socket 0o755 0
  | .device _ => facts .device 0o666 0

def statHandle (sys : System) (p : Process) (fd : Nat) : Except SystemFault FileFacts :=
  match sys.source? p fd with
  | none => .error .badDescriptor
  | some f =>
    match f.endpoint with
    | .reader id | .writer id => .ok ⟨.pipe, 0o600, 0, ["pipe", Text.ofNat id], 0⟩
    | .file place | .directory place =>
      match sys.files.node? place with
      | some node => .ok (sys.factsOf place node)
      | none => .error .missing
    | .device _ => .ok ⟨.device, 0o666, 0, ["device"], 0⟩

def statPath (sys : System) (p : Process) (path : Text) (follow : Bool) :
    Except SystemFault FileFacts := do
  let files := sys.filesOf p
  match ← if follow then files.stat path else files.statLink path with
  | (_, .device (.descriptor fd)) =>
    match sys.statHandle p fd with
    | .ok facts => .ok facts
    | .error _ => .error .missing
  | (place, node) => .ok (sys.factsOf place node)

def listPath (sys : System) (p : Process) (path : Text) : Option (List Text) :=
  match (sys.filesOf p).stat path with
  | .ok (_, .directory entries) => some ("." :: ".." :: entries.map (·.1))
  | _ => none

def overwrite (content : Text) (offset : Nat) (bytes : Text) : Text :=
  if offset = content.length then content ++ bytes
  else
    content.take offset ++ List.replicate (offset - content.length) 0 ++ bytes ++
      content.drop (offset + bytes.length)

/-! ### Reading and writing -/

def readHandle (sys : System) (p : Process) (fd count : Nat) :
    Answer (Except SystemFault Text) :=
  match sys.source? p fd with
  | none => some (.error .badDescriptor, sys)
  | some f =>
    if ¬ f.mode.reads then some (.error .badDescriptor, sys)
    else
      match f.endpoint with
      | .reader id | .writer id =>
        match sys.pipe? id with
        | none => some (.ok [], sys)
        | some pipe =>
          if pipe.slots.isEmpty then
            if p.interrupted then some (.error .interrupted, sys)
            else if sys.hasWriter id then none
            else some (.ok [], sys)
          else
            match pipe.read count with
            | (bytes, pipe) => some (.ok bytes, sys.setPipe pipe)
      | .file place =>
        match sys.files.node? place with
        | some (.file _ content) =>
          let bytes := (content.drop f.offset).take count
          some (.ok bytes, sys.setOpenFile { f with offset := f.offset + bytes.length })
        | _ => some (.ok [], sys)
      | .directory _ => some (.error .isDirectory, sys)
      | .device .zero | .device .full => some (.ok (List.replicate count 0), sys)
      | .device _ => some (.ok [], sys)

/-- What comes of a write: it is over, or some bytes have to wait. -/
inductive Written where
  | done (result : Except SystemFault Unit) (sys : System)
  | rest (bytes : Text) (sys : System)

def writeHandle (sys : System) (p : Process) (fd : Nat) (bytes : Text) : Written :=
  match sys.source? p fd with
  | none => .done (.error .badDescriptor) sys
  | some f =>
    if ¬ f.mode.writes then .done (.error .badDescriptor) sys
    else
      match f.endpoint with
      | .reader id | .writer id =>
        if ¬ sys.hasReader id then
          .done (.error .brokenPipe) (sys.deliver p.pid SignalNumber.brokenPipe p.pid)
        else
          match sys.pipe? id with
          | none => .done (.ok ()) sys
          | some pipe =>
            match pipe.write bytes p.again with
            | (pipe, rest) =>
              let sys := sys.setPipe pipe
              if rest.isEmpty then .done (.ok ()) sys else .rest rest sys
      | .file place =>
        match sys.files.node? place with
        | some (.file mode content) =>
          let offset := if f.mode.appends then content.length else f.offset
          let room := (p.limit .fileSize).soft.map (· - offset)
          let taken := (room.map bytes.take).getD bytes
          let sys :=
            if taken = [] then sys
            else sys.putNode place (.file mode (overwrite content offset taken))
          let sys := sys.setOpenFile { f with offset := offset + taken.length }
          if taken.length = bytes.length then .done (.ok ()) sys
          else .done (.error .tooLarge) (sys.deliver p.pid SignalNumber.fileSize p.pid)
        | _ => .done (.ok ()) sys
      | .directory _ => .done (.error .isDirectory) sys
      | .device .full => .done (if bytes = [] then .ok () else .error .noSpace) sys
      | .device _ => .done (.ok ()) sys

/-! ### Children -/

def deadChild? (sys : System) (parent : Nat) : Option (Nat × ExitStatus) :=
  sys.processes.findSome? fun p =>
    match p.status with
    | .dead status => if p.parent = parent then some (p.pid, status) else none
    | .running _ => none

/-- The last signal that was caught, if any was besides the one for the end of a child. -/
def news? (p : Process) : Option Nat :=
  if p.caught.any (· ≠ SignalNumber.child) then p.caught.getLast? else none

/-- Looks for a child that has ended. A signal that came while an alert process was waiting comes
first. -/
def awaitChild (sys : System) (p : Process) (how : Waiting) : Answer Waited :=
  let early := if how = .alert ∧ p.interrupted then news? p else none
  match early, sys.deadChild? p.pid with
  | some number, _ => some (.interrupted number, sys)
  | none, some (pid, status) => some (.ended pid status, sys.collect pid)
  | none, none =>
    if ¬ sys.processes.any (·.parent = p.pid) then some (.noChild, sys)
    else
      match how with
      | .none => some (.busy, sys)
      | .patient => none
      | .alert => p.caught.getLast?.map fun number => (.interrupted number, sys)

def signalFrom (sys : System) (p : Process) (target : Int) (number : Nat) :
    Except SystemFault Unit × System :=
  if SignalNumber.bound ≤ number then (.error .invalid, sys)
  else
    match sys.send p.pid p.group target number with
    | (true, sys) => (.ok (), sys)
    | (false, sys) =>
      let known := target = Process.caretaker ∨ target = Process.host
      (if known ∧ number = 0 then .ok () else .error .noProcess, sys)

/-! ### The calls -/

/-- Answers a call that neither forks, runs another program nor writes. -/
def perform (sys : System) (p : Process) : (c : Call) → Answer c.Reply
  | .fork => some (.parent 0, sys)
  | .execute _ _ _ => some (.badFormat, sys)
  | .openFile path mode => some (sys.openPath p path mode)
  | .close fd =>
    match p.source? fd with
    | none => some (false, sys)
    | some id => some (true, (sys.setProcess (p.closeHandle fd)).release [id])
  | .duplicate fd least closing =>
    match p.source? fd, p.freeDescriptor? least with
    | none, _ => some (.error .badDescriptor, sys)
    | _, none => some (.error (if p.mayHave least then .tooManyOpen else .invalid), sys)
    | some id, some new =>
      some (.ok new, sys.setProcess (p.setHandle ⟨new, id, closing⟩))
  | .duplicateTo fd target =>
    match p.source? fd with
    | none => some (.error .badDescriptor, sys)
    | some id =>
      if fd = target then some (.ok (), sys)
      else if ¬ p.mayHave target then some (.error .badDescriptor, sys)
      else
        let sys := sys.setProcess (p.setHandle ⟨target, id, false⟩)
        some (.ok (), sys.release (p.source? target).toList)
  | .pipe =>
    let (id, new) := sys.addPipe
    let (reader, new) := new.addOpenFile (.reader id) { reads := true }
    let (writer, new) := new.addOpenFile (.writer id) { writes := true }
    let first := Process.lowestFree 0 p.handles
    let q := p.setHandle ⟨first, reader, false⟩
    let second := Process.lowestFree 0 q.handles
    if p.mayHave second then
      some (.ok (first, second), new.setProcess (q.setHandle ⟨second, writer, false⟩))
    else some (.error .tooManyOpen, sys)
  | .read fd count => sys.readHandle p fd count
  | .write _ _ => some (.ok (), sys)
  | .stat path => some (sys.statPath p path true, sys)
  | .statLink path => some (sys.statPath p path false, sys)
  | .statDescriptor fd => some (sys.statHandle p fd, sys)
  | .list path => some (sys.listPath p path, sys)
  | .changeDirectory path =>
    match (sys.filesOf p).stat path with
    | .ok (place, .directory _) => some (.ok (), sys.setProcess { p with directory := place })
    | .ok _ => some (.error .notDirectory, sys)
    | .error cause => some (.error cause, sys)
  | .workingDirectory => some (p.directory, sys)
  | .signal target number => some (sys.signalFrom p target number)
  | .handle number d => some (p.disposition number, sys.setProcess (p.setDisposition number d))
  | .caught => some (p.caught, sys.setProcess { p with caught := [] })
  | .wait how => sys.awaitChild p how
  | .sleepUntil time => if time ≤ sys.clock then some ((), sys) else none
  | .clock => some (sys.clock, sys)
  | .identity => some ((p.pid, p.parent), sys)
  | .mask mode => some (p.mask, sys.setProcess { p with mask := mode })
  | .limit r => some (p.limit r, sys)
  | .setLimit r l =>
    match (p.limit r).change l with
    | .ok l => some (.ok (), sys.setProcess (p.setLimit r l))
    | .error cause => some (.error cause, sys)

def continue_ (sys : System) (pid : Nat) (rest : Program) : System :=
  match sys.process? pid with
  | some p =>
    if p.isRunning then
      sys.setProcess
        { p with status := .running rest, waits := false, interrupted := false, again := false }
    else sys
  | none => sys

def forkProcess (sys : System) (p : Process) (next : Forked → Program) : System :=
  let pid := sys.nextPid
  let child : Process :=
    { p with
      pid := pid, parent := p.pid, status := .running (next .child), caught := [], held := [],
      waits := false, interrupted := false }
  { sys with nextPid := pid + 1, processes := sys.processes ++ [child] }.continue_ p.pid
    (next (.parent pid))

/-- A process makes its next call; none if that has to wait. -/
def step (sys : System) (p : Process) (rest : Program) : Option System :=
  match rest with
  | .exit code => some (sys.finish p.pid (.exited (code % 256)))
  | .call .fork next => some (sys.forkProcess p next)
  | .call (.execute path args environment) next =>
    match Program.load (sys.filesOf p) path args environment with
    | .ok program =>
      some ((sys.setProcess (p.renewed program)).release (p.handles.map (·.source)))
    | .error cause => some (sys.continue_ p.pid (next cause))
  | .call (.write fd bytes) next =>
    match sys.writeHandle p fd bytes with
    | .done result sys => some (sys.continue_ p.pid (next result))
    | .rest left sys =>
      if left.length = bytes.length then none
      else
        some (sys.setProcess
          { p with status := .running (.call (.write fd left) next), again := true })
  | .call c next =>
    (sys.perform p c).map fun (reply, sys) => sys.continue_ p.pid (next reply)

end System

end ProviderHost
