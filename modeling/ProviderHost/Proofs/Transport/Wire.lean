import ProviderHost.Transport.Exchange

/-!
# The threads on a transport

Several threads work on a transport over standard streams: its reader, somebody who closes it, and
any number of callers. `Wire.step` lets one of them take one step, which is what it does at once or
under a lock. What a stream holds, whether a message can be written and when a waiter wakes is up
to the world.
-/

namespace ProviderHost

namespace Wire

inductive Phase where
  /-- Looks whether it was told to stop and whether a stream is open. -/
  | looking
  | draining
  | handing (lines errLines : List Text) (ended : Bool)
  /-- Standard output has ended: its unfinished line is handed on. -/
  | finishing
  | disconnecting
  | refusing
  | leaving
  | gone
  deriving DecidableEq, Repr

inductive Closing where
  | disconnecting
  | flagging
  | closingInput
  | joining
  | refusing
  deriving DecidableEq, Repr

inductive Stage where
  | asking
  | checking
  | connecting
  | drawing
  | registering (id : Int)
  | sending (id : Int)
  | failing (id : Int) (cause : Fault)
  | entering (id : Int)
  | asleep (id : Int)
  | answered (result : Except Fault Text)
  /-- Looks whether there is a peer for the notification after a farewell. -/
  | parting (response : Except Fault Unit)
  | notifying (response : Except Fault Unit)
  | forgetting (response exited : Except Fault Unit)
  | finished (answer : Except Fault Demand.Answer)
  deriving Repr

structure Call where
  demand : Demand
  stage : Stage := .asking
  deriving Repr

end Wire

/-- A transport with the threads that work on it. -/
structure Wire where
  transport : Transport := {}
  offersTools : Bool := false
  inputOpen : Bool := true
  stopping : Bool := false
  /-- Whether the reader has met the end of standard output. -/
  ended : Bool := false
  phase : Wire.Phase := .looking
  /-- What is left to do for whoever holds the lock to close the transport. -/
  closer : Option Wire.Closing := none
  /-- All that was ever asked, in the order of asking. -/
  calls : List Wire.Call := []
  told : List ReaderEvent := []

/-- A step of one of the threads. -/
inductive WireEvent where
  | read
  | drain (out err : Chunk)
  | close
  | closing
  | ask (d : Demand)
  | advance (caller : Nat)
  | send (caller : Nat) (failure : Option Text)
  deriving DecidableEq, Repr

namespace Wire

/-- A new transport. A stream may be missing. -/
def opening (outOpen errOpen : Bool) : Wire :=
  { transport := { reader := { outOpen := outOpen, errOpen := errOpen } } }

def withRequests (requests : Correlator Text) (w : Wire) : Wire :=
  { w with transport := { w.transport with requests := requests } }

/-- Goes on after something was received from standard output. -/
def receiving (made : Transport × List ReaderEvent) (next : Phase) (w : Wire) : Wire :=
  { w with transport := made.1, told := w.told ++ made.2, phase := next }

def read (codec : Codec) (w : Wire) : Option Wire :=
  match w.phase with
  | .looking =>
    some { w with
      phase := if w.stopping ∨ ¬ w.transport.reader.isBusy then .leaving else .draining }
  | .handing (line :: lines) errLines ended =>
    some (w.receiving (w.transport.receive codec.frame line) (.handing lines errLines ended))
  | .handing [] errLines ended =>
    some { w with
      told := w.told ++ errLines.flatMap (Transport.lineEvents .err)
      phase := if ended then .finishing else .looking }
  | .finishing =>
    let received := w.transport.receive codec.frame w.transport.reader.outRest
    let rest := { w.transport.reader with outRest := [], outOpen := false }
    some { w.receiving ({ received.1 with reader := rest }, received.2) .disconnecting with
      ended := true }
  | .disconnecting =>
    some { w with
      transport := { w.transport with connected := false }
      told := w.told ++ [.note "stdio: provider closed stdout"]
      phase := .refusing }
  | .refusing =>
    some { w.withRequests (w.transport.requests.close TransportFault.endedByProvider.fault) with
      phase := .looking }
  | .leaving => some (w.receiving w.transport.flushErrors .gone)
  | .draining | .gone => none

/-- The reader reads what both streams hold. -/
def drain (out err : Chunk) (w : Wire) : Option Wire :=
  match w.phase with
  | .draining =>
    let fromOut := w.transport.reader.takeOut out
    let fromErr := fromOut.2.takeErr err
    some { w with
      transport := { w.transport with reader := fromErr.2 }
      phase := .handing fromOut.1 fromErr.1 (w.transport.reader.outOpen && out.ended) }
  | _ => none

/-- Somebody closes the transport. Whoever does so while another is at it has to wait. -/
def close (w : Wire) : Option Wire :=
  match w.closer with
  | some _ => none
  | none =>
    if w.transport.closed then some w
    else some { w with
      transport := { w.transport with closed := true }
      closer := some .disconnecting }

def goOnClosing (w : Wire) : Option Wire :=
  w.closer.bind fun
  | .disconnecting =>
    some { w with
      transport := { w.transport with connected := false }
      closer := some .flagging }
  | .flagging => some { w with stopping := true, closer := some .closingInput }
  | .closingInput => some { w with inputOpen := false, closer := some .joining }
  | .joining => if w.phase = .gone then some { w with closer := some .refusing } else none
  | .refusing =>
    some { w.withRequests
        (w.transport.requests.close (TransportFault.closedByHost w.transport.kind).fault) with
      closer := none }

def Stage.act (codec : Codec) (d : Demand) (w : Wire) : Stage → Wire
  | drawing => w.withRequests w.transport.requests.nextId.2
  | registering id => w.withRequests (w.transport.requests.register id).2
  | failing id cause => w.withRequests (w.transport.requests.fail id cause).2
  | asleep id => w.withRequests (w.transport.requests.collect id).2
  | answered result =>
    match d, codec.readGreeting result with
    | .greeting, .ok greeting =>
      { w with
        transport := { w.transport with greeted := true, server := greeting.server }
        offersTools := greeting.offersTools }
    | _, _ => w
  | forgetting _ _ => { w with transport := { w.transport with greeted := false } }
  | _ => w

/-- What comes after the result of a request. -/
def Stage.after (codec : Codec) (result : Except Fault Text) : Demand → Stage
  | .greeting =>
    finished ((codec.readGreeting result).map fun greeting => .server greeting.server)
  | .listing => finished (codec.readTools result)
  | .calling _ _ => finished (result.map .payload)
  | .farewell => parting (result.map fun _ => ())

def Stage.next? (codec : Codec) (s : Settings) (d : Demand) (w : Wire) : Stage → Option Stage
  | asking =>
    match d.answerUnsent? w.transport with
    | some answer => some (finished answer)
    | none => some (if d = .listing then checking else connecting)
  | checking =>
    some (if w.offersTools then connecting
      else finished (.error ExchangeFault.noToolsDeclared.fault))
  | connecting =>
    match w.transport.admitMessage with
    | .ok () => some drawing
    | .error f => some (answered (.error f.fault))
  | drawing => some (registering w.transport.requests.nextId.1)
  | registering id =>
    match (w.transport.requests.register id).1 with
    | .ok () => some (sending id)
    | .error f => some (answered (.error f.fault))
  | failing id _ => some (entering id)
  | entering id =>
    if w.transport.requests.admits id then some (asleep id)
    else some (answered (d.received codec s (.error (.notPending id))))
  | asleep id => some (answered (d.received codec s (w.transport.requests.collect id).1))
  | answered result => some (after codec result d)
  | parting response =>
    match w.transport.admitMessage with
    | .ok () => some (notifying response)
    | .error f => some (forgetting response (.error f.fault))
  | forgetting response exited =>
    some (finished ((response.bind fun _ => exited).map fun _ => .done))
  | sending _ | notifying _ | finished _ => none

def Stage.sent? (delivered : Except SendFault Unit) : Stage → Option Stage
  | sending id =>
    match delivered with
    | .ok () => some (entering id)
    | .error f => some (failing id f.fault)
  | notifying response => some (forgetting response (delivered.mapError SendFault.fault))
  | _ => none

def put (n : Nat) (call : Call) (next : Stage) (w : Wire) : Wire :=
  { w with calls := w.calls.set n { call with stage := next } }

/-- A step of a caller, but for sending. -/
def advance (codec : Codec) (s : Settings) (n : Nat) (call : Call) (w : Wire) : Option Wire :=
  (call.stage.next? codec s call.demand w).map fun next =>
    (call.stage.act codec call.demand w).put n call next

/-- Sends a message. Writing takes its time, but whoever closes standard input waits for it, and so
it counts as one step. -/
def deliver (failure : Option Text) (w : Wire) : Except SendFault Unit :=
  if w.inputOpen then
    match failure with
    | none => .ok ()
    | some reason => .error (.unwritten reason)
  else .error .inputClosed

def send (n : Nat) (failure : Option Text) (call : Call) (w : Wire) : Option Wire :=
  (call.stage.sent? (w.deliver failure)).map fun next => w.put n call next

/-- One step; none if it cannot be taken now. -/
def step (codec : Codec) (s : Settings) (w : Wire) : WireEvent → Option Wire
  | .read => w.read codec
  | .drain out err => w.drain out err
  | .close => w.close
  | .closing => w.goOnClosing
  | .ask d => some { w with calls := w.calls ++ [{ demand := d }] }
  | .advance n => (w.calls[n]?).bind fun call => w.advance codec s n call
  | .send n failure => (w.calls[n]?).bind fun call => w.send n failure call

/-- The wire after some steps, all of which can be taken when they are. -/
def run (codec : Codec) (s : Settings) (w : Wire) (events : List WireEvent) : Option Wire :=
  events.foldlM (fun w e => w.step codec s e) w

end Wire

end ProviderHost
