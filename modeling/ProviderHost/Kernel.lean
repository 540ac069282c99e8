import ProviderHost.Launch
import ProviderHost.Provider
import ProviderHost.System.Call
import ProviderHost.Transport.Reading

/-!
# What the host asks of the operating system

`Kernel κ` lists the calls that the host makes, over states `κ` of the system. Nothing is said
about how processes behave, so what holds for every kernel holds for every behaviour of the
children. Two laws are asked for: the clock never goes back, and a sleep takes time.

A call is given by what it answers when it comes back. Most calls do so in any case; a call that
waits for something without a limit of time does so if the wait `ends`, and what is said of a call
after one that does not come back is said of nothing that happens.
-/

namespace ProviderHost

inductive Signal where
  | term
  | kill
  deriving DecidableEq, Repr

/-- What asking after a child finds out. -/
inductive Poll where
  | alive
  /-- The child is dead, and this call collected it. -/
  | dead (status : ExitStatus)
  /-- Somebody else collected it. -/
  | gone
  deriving DecidableEq, Repr

/-- A process that was started: the execution of its program may still have failed. -/
structure Started where
  pid : Nat
  fault : Option SystemFault := none
  deriving DecidableEq, Repr

/-- Where the messages of the protocol go. -/
inductive Peer where
  /-- The standard streams of a process. -/
  | process (pid : Nat)
  | network (url : Url)
  deriving DecidableEq, Repr

/-- What the host waits for without a limit of time. -/
inductive Wait where
  /-- That a process takes a message. A pipe that nobody reads from fills up. -/
  | room (pid : Nat)
  /-- That a child dies. -/
  | death (pid : Nat)
  deriving DecidableEq, Repr

/-- The calls of the operating system. Durations are in milliseconds. -/
class Kernel (κ : Type) where
  now : κ → Nat
  sleep : Nat → κ → κ
  /-- Starts a process in a group of its own, with three pipes. -/
  start : Files → Launch → List Text → κ → Except LaunchFault Started × κ
  /-- Asks after a child without waiting. -/
  poll : Nat → κ → Poll × κ
  /-- Whether a wait ends. -/
  ends : Wait → κ → Bool
  /-- Collects a child, for whose death it waits. -/
  reap : Nat → κ → κ
  /-- Signals a process group; answers whether there was one that may be signalled. -/
  signalGroup : Nat → Signal → κ → Bool × κ
  /-- Signals one process. -/
  signalProcess : Nat → Signal → κ → Bool × κ
  /-- Reads what a child has written, up to the first read that has nothing more. -/
  read : Nat → Stream → κ → List ReadAnswer × κ
  /-- Closes the host's end of a child's standard input. -/
  closeInput : Nat → κ → κ
  /-- Closes the host's ends of a child's output streams. -/
  closeOutputs : Nat → κ → κ
  /-- Asks the health endpoint of a provider for its status, or fails with a reason. -/
  healthStatus : Url → Text → Nat → κ → Except Text Nat × κ
  /-- Greets a provider, and waits for its answer. -/
  greet : Peer → Nat → κ → Except Fault ServerInfo × κ
  /-- Asks a provider for its tools. -/
  listTools : Peer → Nat → κ → Except Fault (List ToolOffer) × κ
  /-- Calls a tool with its arguments. -/
  callTool : Peer → Text → Text → Nat → κ → Except Fault Text × κ
  /-- Asks a provider to shut down, once it takes the message. -/
  dismiss : Peer → Nat → κ → Except Fault Unit × κ
  now_le_poll : ∀ pid k, now k ≤ now (poll pid k).2
  now_lt_sleep : ∀ d k, now k < now (sleep d k)
  now_le_healthStatus : ∀ u path t k, now k ≤ now (healthStatus u path t k).2

end ProviderHost
