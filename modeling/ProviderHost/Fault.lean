import ProviderHost.Text

/-!
# Faults

What a caller is told when an operation fails. Each part of the host has a type of causes of
its own; `Fault` is the form in which every cause is reported.
-/

namespace ProviderHost

inductive FaultCategory where
  | input
  | configuration
  | launch
  | handshake
  | probeTimeout
  | requestTimeout
  | transport
  | protocol
  | internal
  deriving DecidableEq, Repr

namespace FaultCategory

def all : List FaultCategory :=
  [.input, .configuration, .launch, .handshake, .probeTimeout, .requestTimeout, .transport,
    .protocol, .internal]

def name : FaultCategory → Text
  | .input => "input"
  | .configuration => "configuration"
  | .launch => "launch"
  | .handshake => "handshake"
  | .probeTimeout => "probe_timeout"
  | .requestTimeout => "request_timeout"
  | .transport => "transport"
  | .protocol => "protocol"
  | .internal => "internal"

end FaultCategory

/-- A reported failure: what happened, a code to branch on, and what to do about it. -/
structure Fault where
  category : FaultCategory
  message : Text
  code : Text := "unknown_error"
  hint : Text := []
  remoteCode : Option Int := none
  deriving DecidableEq, Repr

/-- The name of the `i`th element of an enumeration, `unknown` outside it. -/
def nameAt {α : Type} (names : List α) (name : α → Text) (i : Int) : Text :=
  match i with
  | .ofNat n => (names[n]?).elim "unknown" name
  | .negSucc _ => "unknown"

end ProviderHost
