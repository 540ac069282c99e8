import ProviderHost.Correlator
import ProviderHost.Kernel
import ProviderHost.Transport.Lines

/-!
# Transports

The connection to a provider: the requests that wait on it, and the reader of the provider's
output. Over standard streams, every line of either stream is handed on with the name of its
stream; a line of standard output may also be a reply. When standard output ends the peer is
lost for good. How a line is read as a message is up to the caller.
-/

namespace ProviderHost

/-- What a line of standard output is. -/
inductive Frame where
  | noise
  | reply (id : Int) (payload : Text)
  /-- A message that nobody waits for, with what is noted about it. -/
  | other (note : Text)
  deriving DecidableEq, Repr

inductive TransportKind where
  | stdio
  | eventStream
  deriving DecidableEq, Repr

def TransportKind.name : TransportKind → Text
  | .stdio => "stdio"
  | .eventStream => "event-stream"

inductive TransportFault where
  | notConnected (kind : TransportKind)
  | listedTooEarly
  | calledTooEarly
  | endedByProvider
  | closedByHost (kind : TransportKind)
  deriving DecidableEq, Repr

def TransportFault.fault : TransportFault → Fault
  | .notConnected kind =>
    { category := .transport
      message := kind.name ++ " transport is not connected"
      code := "transport_closed" }
  | .listedTooEarly =>
    { category := .transport
      message := "Cannot list tools before initialize"
      code := "not_initialized" }
  | .calledTooEarly =>
    { category := .transport
      message := "Cannot call tools before initialize"
      code := "not_initialized" }
  | .endedByProvider =>
    { category := .transport
      message := "Provider closed its output stream"
      code := "transport_closed" }
  | .closedByHost kind =>
    { category := .transport
      message := kind.name ++ " transport closed"
      code := "transport_closed" }

/-- The reader of a provider's output: which streams are open, and their unfinished lines. -/
structure Reader where
  outOpen : Bool := true
  errOpen : Bool := true
  outRest : Text := []
  errRest : Text := []
  deriving DecidableEq, Repr

namespace Reader

def isBusy (r : Reader) : Bool := r.outOpen || r.errOpen

/-- Takes a chunk of standard output in; answers the complete lines. -/
def takeOut (out : Chunk) (r : Reader) : List Text × Reader :=
  if r.outOpen then
    match Lines.split (r.outRest ++ out.bytes) with
    | (lines, rest) => (lines, { r with outRest := rest })
  else ([], r)

/-- Takes a chunk of standard error in; answers the complete lines. -/
def takeErr (err : Chunk) (r : Reader) : List Text × Reader :=
  if r.errOpen then
    match Lines.split (r.errRest ++ err.bytes) with
    | (lines, rest) => (lines, { r with errRest := rest, errOpen := !err.ended })
  else ([], r)

end Reader

/-- What reading brings about, in order. -/
inductive ReaderEvent where
  | line (stream : Stream) (text : Text)
  | note (message : Text)
  deriving DecidableEq, Repr

structure Transport where
  kind : TransportKind := .stdio
  connected : Bool := true
  closed : Bool := false
  greeted : Bool := false
  server : ServerInfo := {}
  requests : Correlator Text := {}
  reader : Reader := {}

namespace Transport

def lineEvents (stream : Stream) (line : Text) : List ReaderEvent :=
  ((Lines.counted? line).map (ReaderEvent.line stream)).toList

def dispatch (t : Transport) (line : Text) : Frame → Transport × List ReaderEvent
  | .noise => (t, [.note ("stdio: non-protocol output: " ++ line)])
  | .other note => (t, [.note (t.kind.name ++ ": " ++ note)])
  | .reply id payload =>
    match t.requests.resolve id payload with
    | (true, requests) => ({ t with requests := requests }, [])
    | (false, _) =>
      (t, [.note (t.kind.name ++ ": dropping response with unknown id " ++ Text.ofInt id)])

def receive (decode : Text → Frame) (t : Transport) (line : Text) :
    Transport × List ReaderEvent :=
  match Lines.counted? line with
  | none => (t, [])
  | some line =>
    let (t, events) := t.dispatch line (decode line)
    (t, .line .out line :: events)

def receiveAll (decode : Text → Frame) (t : Transport) : List Text → Transport × List ReaderEvent
  | [] => (t, [])
  | line :: lines =>
    let (t, events) := t.receive decode line
    let (t, more) := t.receiveAll decode lines
    (t, events ++ more)

/-- The end of standard output: the unfinished line counts, and the peer is lost. -/
def loseOutput (decode : Text → Frame) (t : Transport) : Transport × List ReaderEvent :=
  let (t, events) := t.receive decode t.reader.outRest
  ({ t with
      connected := false
      requests := t.requests.close TransportFault.endedByProvider.fault
      reader := { t.reader with outRest := [], outOpen := false } },
   events ++ [.note "stdio: provider closed stdout"])

/-- The end of standard output is noticed in the round that has read it. -/
def noticeEnd (decode : Text → Frame) (out : Chunk) (t : Transport) :
    Transport × List ReaderEvent :=
  if t.reader.outOpen ∧ out.ended then t.loseOutput decode else (t, [])

/-- The end of reading: the unfinished line of standard error counts. -/
def flushErrors (t : Transport) : Transport × List ReaderEvent :=
  ({ t with reader := { t.reader with errRest := [] } }, lineEvents .err t.reader.errRest)

def finishReading (t : Transport) : Transport × List ReaderEvent :=
  if t.reader.isBusy then (t, []) else t.flushErrors

/-- One round of the reader: what both streams hold is read, the complete lines are handed on,
and a stream that has ended is noticed. -/
def iterate (decode : Text → Frame) (out err : Chunk) (t : Transport) :
    Transport × List ReaderEvent :=
  if t.closed ∨ ¬ t.reader.isBusy then (t, [])
  else
    match t.reader.takeOut out with
    | (outLines, r) =>
      match r.takeErr err with
      | (errLines, r) =>
        match { t with reader := r }.receiveAll decode outLines with
        | (t, handed) =>
          match t.noticeEnd decode out with
          | (t, last) =>
            match t.finishReading with
            | (t, flushed) =>
              (t, handed ++ errLines.flatMap (lineEvents .err) ++ last ++ flushed)

def readOnce (decode : Text → Frame) (outs errs : List ReadAnswer) (t : Transport) :
    Transport × List ReaderEvent :=
  t.iterate decode (ReadAnswer.drain outs).1 (ReadAnswer.drain errs).1

/-- Several rounds of the reader, on what all later reads of the two streams will answer. -/
def readRounds (decode : Text → Frame) :
    Nat → List ReadAnswer → List ReadAnswer → Transport → Transport × List ReaderEvent
  | 0, _, _, t => (t, [])
  | n + 1, outs, errs, t =>
    match t.readOnce decode outs errs with
    | (t, events) =>
      match t.readRounds decode n (ReadAnswer.drain outs).2 (ReadAnswer.drain errs).2 with
      | (t, more) => (t, events ++ more)

def close (t : Transport) : Transport × List ReaderEvent :=
  if t.closed then (t, [])
  else
    let (t, events) := t.flushErrors
    ({ t with
        connected := false
        closed := true
        requests := t.requests.close (TransportFault.closedByHost t.kind).fault },
     events)

/-- Begins a request: a fresh id gets an entry, if there is a peer. -/
def beginRequest (t : Transport) : Except Fault Int × Transport :=
  if t.connected then
    let (id, requests) := t.requests.nextId
    let (registered, requests) := requests.register id
    ((registered.map fun _ => id).mapError RequestFault.fault, { t with requests := requests })
  else (.error (TransportFault.notConnected t.kind).fault, t)

def admitMessage (t : Transport) : Except TransportFault Unit :=
  if t.connected then .ok () else .error (.notConnected t.kind)

def admitListing (t : Transport) : Except TransportFault Unit :=
  if t.greeted then .ok () else .error .listedTooEarly

def admitCall (t : Transport) : Except TransportFault Unit :=
  if t.greeted then .ok () else .error .calledTooEarly

end Transport

end ProviderHost
