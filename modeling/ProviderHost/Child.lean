import ProviderHost.Journal
import ProviderHost.Kernel

/-!
# Children

A handle on a process that the host started. The handle remembers once it has seen the process
gone: from then on it sends no signal and waits for nothing, so that a number that the system
gave to another process is never signalled.
-/

namespace ProviderHost

structure Child where
  pid : Nat
  reaped : Bool := false
  exitCode : Option Nat := none
  deriving DecidableEq, Repr

namespace Child

variable {κ : Type} [Kernel κ]

def after (c : Child) : Poll → Child
  | .alive => c
  | .dead status => { c with reaped := true, exitCode := some status.code }
  | .gone => { c with reaped := true }

def isRunning (c : Child) (k : κ) : Bool × Child × κ :=
  if c.reaped then (false, c, k)
  else
    match Kernel.poll c.pid k with
    | (.alive, k) => (true, c, k)
    | (answer, k) => (false, c.after answer, k)

/-- Signals the whole group, or the process alone while it has no group yet. -/
def signal (c : Child) (s : Signal) (k : κ) : Bool × κ :=
  match Kernel.signalGroup c.pid s k with
  | (true, k) => (true, k)
  | (false, k) => Kernel.signalProcess c.pid s k

/-- Signals a process that is running; answers whether the signal was delivered. -/
def signalIfRunning (c : Child) (s : Signal) (k : κ) : Bool × Child × κ :=
  match c.isRunning k with
  | (false, c, k) => (false, c, k)
  | (true, c, k) =>
    let (delivered, k) := c.signal s k
    (delivered, c, k)

def terminate (c : Child) (k : κ) : Bool × Child × κ := c.signalIfRunning .term k

def kill (c : Child) (k : κ) : Bool × Child × κ := c.signalIfRunning .kill k

/-- How long a wait sleeps between two looks at the process. -/
def pollInterval : Nat := 20

theorem now_le_isRunning (c : Child) (k : κ) : Kernel.now k ≤ Kernel.now (c.isRunning k).2.2 := by
  unfold isRunning
  split
  · exact Nat.le_refl _
  · have := Kernel.now_le_poll c.pid k
    split <;> simp_all

/-- Waits until the process has ended or the clock has reached `deadline`. -/
def waitUntil (deadline : Nat) (c : Child) (k : κ) : Bool × Child × κ :=
  match _h : c.isRunning k with
  | (false, c, k) => (true, c, k)
  | (true, c', k') =>
    if Kernel.now k' < deadline then waitUntil deadline c' (Kernel.sleep pollInterval k')
    else (false, c', k')
termination_by deadline - Kernel.now k
decreasing_by
  have h₁ := now_le_isRunning c k
  have h₂ := Kernel.now_lt_sleep pollInterval k'
  rw [‹c.isRunning k = _›] at h₁
  simp only at h₁
  omega

def waitForExit (timeout : Nat) (c : Child) (k : κ) : Bool × Child × κ :=
  c.waitUntil (Kernel.now k + timeout) k

/-- Gives the handle up: a process that is still running is killed and collected. -/
def release (c : Child) (k : κ) : Child × κ :=
  match c.isRunning k with
  | (true, c, k) =>
    let (_, k) := c.signal .kill k
    ({ c with reaped := true }, Kernel.reap c.pid k)
  | (false, c, k) => (c, k)

/-- Whether giving the handle up comes back: a process that outlives the signal is waited for. -/
def releaseEnds (c : Child) (k : κ) : Bool :=
  match c.isRunning k with
  | (true, c, k) =>
    let (_, k) := c.signal .kill k
    Kernel.ends (.death c.pid) k
  | (false, _, _) => true

/-- How long the host waits for a process that could not run its program. -/
def failedLaunchWait : Nat := 1000

/-- Starts a process for a launch, with the entries of its environment. -/
def spawn (files : Files) (launch : Launch) (env : List Text) (k : κ) :
    Except LaunchFault Child × κ :=
  match Kernel.start files launch env k with
  | (.error cause, k) => (.error cause, k)
  | (.ok started, k) =>
    let c : Child := { pid := started.pid }
    match started.fault with
    | none => (.ok c, k)
    | some cause =>
      let (_, c, k) := c.waitForExit failedLaunchWait k
      let (_, k) := c.release k
      (.error (.notExecuted launch.executable cause.message), k)

def reportSpawn (launch : Launch) (result : Except LaunchFault Child) (j : Journal) : Journal :=
  match result with
  | .ok c => j.debug ("spawned " ++ launch.executable ++ " as pid " ++ Text.ofNat c.pid)
  | .error _ => j

end Child

end ProviderHost
