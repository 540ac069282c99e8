import ProviderHost.Child
import ProviderHost.LogRing
import ProviderHost.Prompt
import ProviderHost.Transport.Stdio

/-!
# Instances

A provider that was launched: its process, its connection, its output, its stage of life and
the monitor that watches over it.
-/

namespace ProviderHost

/-- What the monitor of an instance does next. -/
inductive MonitorPhase where
  | none
  /-- Waits for its timer or for the request to stop. -/
  | waiting
  | looking
  | probing
  | judging (healthy : Bool)
  | changing (next : Lifecycle)
  | abandoning
  | ending
  | ended
  deriving DecidableEq, Repr

structure Monitor where
  phase : MonitorPhase := .none
  stopping : Bool := false
  due : Nat := 0
  deriving DecidableEq, Repr

structure Instance where
  id : Text
  kind : ProviderKind := .process
  child : Option Child := none
  transport : Option Transport := none
  ring : LogRing
  /-- Whether the lines of the provider are kept out of the journal. -/
  quiet : Bool := false
  baseUrl : Option Url := none
  url : Text := []
  server : ServerInfo := {}
  stage : Lifecycle := .stopped
  monitor : Monitor := {}
  tools : Option (List ToolOffer) := none

namespace Instance

variable {κ : Type} [Kernel κ]

def pid? (i : Instance) : Option Nat := i.child.map (·.pid)

/-- Keeps what reading brought about: lines go to the ring, and everything to the journal unless
the instance is quiet. -/
def absorb (i : Instance) (j : Journal) : List ReaderEvent → Instance × Journal
  | [] => (i, j)
  | .line stream text :: events =>
    let noted := "[" ++ i.id ++ "] [" ++ stream.name ++ "] " ++ text
    { i with ring := i.ring.append stream text }.absorb
      (if i.quiet then j else j.debug noted) events
  | .note message :: events => i.absorb (j.debug message) events

/-- Whether the process lives; an instance without a process counts as alive. -/
def isAlive (i : Instance) (k : κ) : Bool × Instance × κ :=
  match i.child with
  | none => (true, i, k)
  | some c =>
    let (alive, c, k) := c.isRunning k
    (alive, { i with child := some c }, k)

def isConnected (i : Instance) : Bool := i.transport.any (·.connected)

/-- What a probe found, and what is noted about a request that failed. -/
structure Probe where
  healthy : Bool
  note : Option Text := none
  deriving DecidableEq, Repr

def probeUrl (s : Settings) (i : Instance) (u : Url) (k : κ) : Probe × Instance × κ :=
  match Kernel.healthStatus u s.healthPath s.probeRequestTimeout k with
  | (.ok status, k) => ({ healthy := 200 ≤ status ∧ status < 300 }, i, k)
  | (.error reason, k) =>
    ({ healthy := false, note := some ("probe of " ++ i.id ++ " failed: " ++ reason) }, i, k)

/-- Whether the provider is well: its process lives, its peer is connected, and its health
endpoint, if it has one, says so. A network provider has nothing but its endpoint. -/
def probe (s : Settings) (i : Instance) (k : κ) : Probe × Instance × κ :=
  match i.kind with
  | .process =>
    match i.isAlive k with
    | (false, i, k) => ({ healthy := false }, i, k)
    | (true, i, k) =>
      if ¬ i.isConnected then ({ healthy := false }, i, k)
      else
        match i.baseUrl with
        | none => ({ healthy := true }, i, k)
        | some u => i.probeUrl s u k
  | .network =>
    match i.baseUrl with
    | none => ({ healthy := false }, i, k)
    | some u => i.probeUrl s u k

/-- Whether an instance is in use: not stopped, alive, and for a network provider well. -/
def isLive (s : Settings) (i : Instance) (k : κ) : Bool × Option Text × Instance × κ :=
  if i.stage = .stopped then (false, none, i, k)
  else
    match i.isAlive k with
    | (false, i, k) => (false, none, i, k)
    | (true, i, k) =>
      match i.kind with
      | .process => (true, none, i, k)
      | .network =>
        let (p, i, k) := i.probe s k
        (p.healthy, p.note, i, k)

theorem now_le_isAlive (i : Instance) (k : κ) :
    Kernel.now k ≤ Kernel.now (i.isAlive k).2.2 := by
  unfold isAlive
  split
  · exact Nat.le_refl _
  · exact Child.now_le_isRunning _ k

theorem now_le_probeUrl (s : Settings) (i : Instance) (u : Url) (k : κ) :
    Kernel.now k ≤ Kernel.now (i.probeUrl s u k).2.2 := by
  have := Kernel.now_le_healthStatus u s.healthPath s.probeRequestTimeout k
  unfold probeUrl
  split <;> simp_all

theorem now_le_probe (s : Settings) (i : Instance) (k : κ) :
    Kernel.now k ≤ Kernel.now (i.probe s k).2.2 := by
  have h := now_le_isAlive i k
  unfold probe
  split
  · split
    · simp_all
    · rename_i i' k' heq
      rw [heq] at h
      split
      · exact h
      · split
        · exact h
        · exact Nat.le_trans h (now_le_probeUrl s _ _ _)
  · split
    · exact Nat.le_refl _
    · exact now_le_probeUrl s _ _ _

def readOutput (decode : Text → Frame) (i : Instance) (j : Journal) (k : κ) :
    Instance × Journal × κ :=
  match i.child, i.transport with
  | some c, some t =>
    if t.closed then (i, j, k)
    else
      let (outs, k) := if t.reader.outOpen then Kernel.read c.pid .out k else ([], k)
      let (errs, k) := if t.reader.errOpen then Kernel.read c.pid .err k else ([], k)
      let (t, events) := t.readOnce decode outs errs
      let (i, j) := { i with transport := some t }.absorb j events
      (i, j, k)
  | _, _ => (i, j, k)

def closeTransport (i : Instance) (j : Journal) (k : κ) : Instance × Journal × κ :=
  match i.transport with
  | none => (i, j, k)
  | some t =>
    let (t', events) := t.close
    let (i, j) := { i with transport := some t' }.absorb j events
    match i.pid? with
    | some pid =>
      if t.closed then (i, j, k) else (i, j, Kernel.closeOutputs pid (Kernel.closeInput pid k))
    | none => (i, j, k)

end Instance

end ProviderHost
