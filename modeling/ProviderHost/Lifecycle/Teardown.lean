import ProviderHost.Lifecycle.Monitor

/-!
# Ending an instance

Ending goes from the mild to the harsh: the provider is asked over its connection, the
connection is closed, the process group is asked to end, and what is still there after the
grace period is killed. Nothing of this can fail: what does not work is reported, and the next
means is used. It need not come back, though (`stopEnds`): the request is written to a process that
may take no more messages, and a handle that is given up waits for its process to die.
-/

namespace ProviderHost

inductive Ending where
  | notSignalled
  | inTime
  | killed
  | survived
  deriving DecidableEq, Repr

namespace Child

variable {κ : Type} [Kernel κ]

def killWait : Nat := 1000

def insist (c : Child) (k : κ) : Ending × Child × κ :=
  match c.kill k with
  | (_, c, k) =>
    match c.waitForExit killWait k with
    | (true, c, k) => (.killed, c, k)
    | (false, c, k) => (.survived, c, k)

/-- Ends a process: asks first, and kills after a grace period. -/
def shutDown (grace : Nat) (c : Child) (k : κ) : Ending × Child × κ :=
  match c.terminate k with
  | (false, c, k) => (.notSignalled, c, k)
  | (true, c, k) =>
    match c.waitForExit grace k with
    | (true, c, k) => (.inTime, c, k)
    | (false, c, k) => c.insist k

end Child

namespace Ending

def impatience (id : Text) (grace : Nat) : Text :=
  "provider " ++ id ++ " ignored SIGTERM for " ++ Text.ofNat grace ++ " ms, sending SIGKILL"

def survival (id : Text) (pid : Nat) : Text :=
  "provider " ++ id ++ " (pid " ++ Text.ofNat pid ++ ") survived SIGKILL"

def report (id : Text) (grace pid : Nat) (j : Journal) : Ending → Journal
  | notSignalled => j
  | inTime => j
  | killed => j.warn (impatience id grace)
  | survived => (j.warn (impatience id grace)).error (survival id pid)

end Ending

namespace Instance

variable {δ κ : Type} [Document δ] [Kernel κ]

/-- Whether there is a peer that knows of this host. -/
def isGreeted (i : Instance) : Bool := i.transport.any fun t => t.connected && t.greeted

/-- Reports a provider that did not answer the request to shut down. -/
def reportDismissal (i : Instance) (f : Fault) (w : World κ) : World κ :=
  let w := match i.transport with
    | some t => w.warn (t.kind.name ++ ": shutdown request failed: " ++ f.message)
    | none => w
  w.debug ("graceful shutdown of " ++ i.id ++ " failed: " ++ f.message)

/-- Asks a provider that was greeted to shut down. -/
def dismiss (s : Settings) (i : Instance) (w : World κ) : Instance × World κ :=
  match i.peer? with
  | some peer =>
    if i.isGreeted then
      let i' := { i with transport := i.transport.map fun t => { t with greeted := false } }
      match Kernel.dismiss peer s.shutdownTimeout w.kernel with
      | (.ok (), k) => (i', { w with kernel := k })
      | (.error f, k) => (i', reportDismissal i f { w with kernel := k })
    else (i, w)
  | none => (i, w)

def endProcess (s : Settings) (i : Instance) (w : World κ) : Instance × World κ :=
  match i.child with
  | none => (i, w)
  | some c =>
    match c.shutDown s.stopGrace w.kernel with
    | (ending, c, k) =>
      ({ i with child := some c },
        { w with kernel := k, journal := ending.report i.id s.stopGrace c.pid w.journal })

/-- Ends everything that belongs to an instance: its monitor, its connection, its process. The
provider itself is asked first if the end is to be graceful. -/
def tearDown (site : Site δ) (graceful : Bool) (i : Instance) (w : World κ) :
    Instance × World κ :=
  match i.joinMonitor site w with
  | (i, w) =>
    match if graceful then i.dismiss site.settings w else (i, w) with
    | (i, w) =>
      match i.disconnect w with
      | (i, w) => i.endProcess site.settings w

def retire (site : Site δ) (graceful : Bool) (last : Lifecycle) (i : Instance) (w : World κ) :
    Instance × World κ :=
  match i.tearDown site graceful w with
  | (i, w) => i.transition site last w

def releaseChild (i : Instance) (w : World κ) : Instance × World κ :=
  match i.child with
  | none => (i, w)
  | some c =>
    match c.release w.kernel with
    | (c, k) => ({ i with child := some c }, { w with kernel := k })

/-- Whether asking the provider to shut down comes back. -/
def dismissEnds (i : Instance) (w : World κ) : Bool :=
  match i.peer? with
  | some (.process pid) => !i.isGreeted || Kernel.ends (.room pid) w.kernel
  | _ => true

/-- Whether ending an instance gracefully and giving its process up comes back. -/
def stopEnds (site : Site δ) (i : Instance) (w : World κ) : Bool :=
  (match i.joinMonitor site w with
    | (i, w) => i.dismissEnds w) &&
  match i.retire site true .stopped w with
  | (i, w) => i.child.all (·.releaseEnds w.kernel)

def discard (site : Site δ) (i : Instance) (w : World κ) : Instance × World κ :=
  match i.joinMonitor site w with
  | (i, w) =>
    match i.disconnect w with
    | (i, w) => i.releaseChild w

end Instance

end ProviderHost
