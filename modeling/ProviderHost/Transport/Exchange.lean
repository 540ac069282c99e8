import ProviderHost.Settings
import ProviderHost.Transport.Stdio

/-!
# Exchanges with a provider

What the host asks a provider for over a transport, and what it makes of the answers. Reading the
provider's messages is up to a `Codec`.
-/

namespace ProviderHost

inductive Demand where
  | greeting
  | listing
  | calling (tool arguments : Text)
  | farewell
  deriving DecidableEq, Repr

/-- Why a message cannot be sent over standard input. -/
inductive SendFault where
  | inputClosed
  | unwritten (reason : Text)
  deriving DecidableEq, Repr

def SendFault.fault : SendFault → Fault
  | inputClosed =>
    { category := .transport
      message := "Provider stdin is closed"
      code := "transport_closed" }
  | unwritten reason =>
    { category := .transport
      message := "Failed to write to provider stdin: " ++ reason
      code := "stdin_write_failed" }

inductive ExchangeFault where
  | ungreetedBy (payload : Text)
  | noToolsDeclared
  | toolsMissing
  deriving DecidableEq, Repr

def ExchangeFault.fault : ExchangeFault → Fault
  | ungreetedBy payload =>
    { category := .handshake
      message := "initialize result is not an object: " ++ payload
      code := "handshake_failed" }
  | noToolsDeclared =>
    { category := .protocol
      message := "Provider does not declare the tools capability"
      code := "tools_unsupported" }
  | toolsMissing =>
    { category := .protocol
      message := "listTools result is missing tools"
      code := "missing_tools" }

structure Greeting where
  server : ServerInfo
  offersTools : Bool
  deriving DecidableEq, Repr

/-- How the messages of a provider are read. -/
structure Codec where
  frame : Text → Frame
  /-- The result in a reply to a method, or the refusal in it. -/
  result : Text → Text → Except Fault Text
  greeting? : Text → Option Greeting
  /-- None if there is no list of tools in the result. -/
  tools? : Text → Option (List ToolOffer)

namespace Demand

inductive Answer where
  | server (info : ServerInfo)
  | tools (offers : List ToolOffer)
  | payload (text : Text)
  | done
  deriving DecidableEq, Repr

def method : Demand → Text
  | greeting => "initialize"
  | listing => "listTools"
  | calling _ _ => "callTool"
  | farewell => "shutdown"

def timeout (s : Settings) : Demand → Nat
  | greeting => s.handshakeTimeout
  | listing => s.discoveryTimeout
  | calling _ _ => s.toolCallTimeout
  | farewell => s.shutdownTimeout

/-- The answer of a demand for which nothing is sent. Nobody has to part who was not greeted. -/
def answerUnsent? (t : Transport) : Demand → Option (Except Fault Answer)
  | greeting => none
  | listing =>
    match t.admitListing with
    | .ok () => none
    | .error f => some (.error f.fault)
  | calling _ _ =>
    match t.admitCall with
    | .ok () => none
    | .error f => some (.error f.fault)
  | farewell => if t.greeted then none else some (.ok .done)

/-- The failure of a wait as it is reported: a timeout goes by the method. -/
def explain (s : Settings) (d : Demand) (f : Fault) : Fault :=
  if f.category = .requestTimeout then
    { f with message := d.method ++ " timed out after " ++ Text.ofNat (d.timeout s) ++ " ms" }
  else f

def received (codec : Codec) (s : Settings) (d : Demand) :
    Except RequestFault Text → Except Fault Text
  | .error f => .error (d.explain s f.fault)
  | .ok payload => codec.result d.method payload

end Demand

def handshakeFault (f : Fault) : Fault :=
  if f.category = .protocol ∨ f.code = "malformed_frame" ∨ f.code = "missing_result" then
    { f with category := .handshake, code := "handshake_failed" }
  else f

namespace Codec

def readGreeting (codec : Codec) : Except Fault Text → Except Fault Greeting
  | .error f => .error (handshakeFault f)
  | .ok payload =>
    match codec.greeting? payload with
    | none => .error (ExchangeFault.ungreetedBy payload).fault
    | some greeting => .ok greeting

def readTools (codec : Codec) : Except Fault Text → Except Fault Demand.Answer
  | .error f => .error f
  | .ok payload =>
    match codec.tools? payload with
    | none => .error ExchangeFault.toolsMissing.fault
    | some offers => .ok (.tools offers)

end Codec

end ProviderHost
