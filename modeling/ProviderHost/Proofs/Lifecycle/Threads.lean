import ProviderHost.Proofs.Lifecycle.Rounds

/-!
# The threads around a provider

Several threads work on the instances of one provider: the monitor of each instance, the thread
that holds the provider's lock to start or to stop it, and the callers that borrow a connection,
who hold no lock. `Threads.step` lets one of them take one step; between two steps anything may
happen to the processes, the connections and the rest of the world. Instances go by their numbers
in the order of their launches, and the list of the controller holds at most one of them.
-/

namespace ProviderHost

/-- Why an instance is ended: to stop the provider, or to start it anew. -/
inductive EndCause where
  | stop
  | restart
  deriving DecidableEq, Repr

/-- Whether the provider is asked before its instance is ended. -/
def EndCause.isGraceful : EndCause → Bool
  | .stop => true
  | .restart => false

inductive EndStep where
  | flagging
  | joining
  | unlisting
  | dismissing
  | disconnecting
  | killing
  | settling
  deriving DecidableEq, Repr

namespace EndStep

def next? : EndStep → Option EndStep
  | flagging => some joining
  | joining => some unlisting
  | unlisting => some dismissing
  | dismissing => some disconnecting
  | disconnecting => some killing
  | killing => some settling
  | settling => none

/-- Whether the monitor was waited for before this step. -/
def isJoined : EndStep → Bool
  | flagging | joining => false
  | _ => true

variable {δ κ : Type} [Document δ] [Kernel κ]

def act (site : Site δ) (cause : EndCause) (i : Instance) (w : World κ) :
    EndStep → Instance × World κ
  | flagging => ({ i with monitor := { i.monitor with stopping := true } }, w)
  | joining | unlisting => (i, w)
  | dismissing => if cause.isGraceful then i.dismiss site.settings w else (i, w)
  | disconnecting => i.disconnect w
  | killing => i.endProcess site.settings w
  | settling => i.transition site .stopped w

end EndStep

/-- What the thread that holds the lock of the provider does next. -/
inductive Errand where
  | idle
  /-- A start reads the stage of the instance that it has found. -/
  | reading (n : Nat)
  | looking (n : Nat)
  | probing (n : Nat)
  | ending (cause : EndCause) (n : Nat) (step : EndStep)
  | launching
  | watching (n : Nat)
  deriving DecidableEq, Repr

def Errand.subject? : Errand → Option Nat
  | idle | launching => none
  | reading n | looking n | probing n | watching n => some n
  | ending _ n _ => some n

/-- What is left to do for somebody who has ended an instance. -/
def EndCause.errand : EndCause → Errand
  | .stop => .idle
  | .restart => .launching

/-- The threads that work on the instances of a provider. -/
structure Threads (κ : Type) where
  world : World κ
  instances : List Instance := []
  /-- The number of the instance in the list of the controller. -/
  listed : Option Nat := none
  errand : Errand := .idle
  /-- What the callers that borrow have found in the list, until they have read its stage. -/
  found : Nat → Option (Option Nat) := fun _ => none

/-- A step of one of the threads, or of the world around them. -/
inductive ThreadEvent (κ : Type) where
  | outside (w : World κ)
  /-- The connection of an instance is read, used or lost. -/
  | traffic (n : Nat) (t : Option Transport) (ring : LogRing)
  | monitor (n : Nat)
  /-- The lock is taken to stop the provider, be it alone or among all of them. -/
  | stop
  | start
  | work
  /-- A caller that wants to borrow the connection looks into the list. -/
  | find (caller : Nat)
  /-- The caller reads the stage of what it has found, and runs its callback or is refused. -/
  | borrow (caller : Nat)
  | release (n : Nat)

def ThreadEvent.takesLock {κ : Type} : ThreadEvent κ → Bool
  | .stop | .start => true
  | _ => false

namespace Threads

variable {δ κ : Type} [Document δ] [Kernel κ]

/-- A single instance that is listed, with nobody at work but its monitor. -/
def around (i : Instance) (w : World κ) : Threads κ :=
  { world := w, instances := [i], listed := some 0 }

def live? (t : Threads κ) : Option Instance := t.listed.bind (t.instances[·]?)

def stage? (n : Nat) (t : Threads κ) : Option Lifecycle := (t.instances[n]?).map (·.stage)

def put (n : Nat) (made : Instance × World κ) (t : Threads κ) : Threads κ :=
  { t with instances := t.instances.set n made.1, world := made.2 }

def leave (id : Text) (t : Threads κ) : Threads κ :=
  { t with world := t.world.info ("provider " ++ id ++ " is already running"), errand := .idle }

def condemn (id : Text) (n : Nat) (t : Threads κ) : Threads κ :=
  { t with
    world := t.world.warn ("provider " ++ id ++ " has a stale instance, restarting")
    errand := .ending .restart n .flagging }

/-- A step of ending an instance. It is held up while the monitor is waited for. -/
def endStep (site : Site δ) (cause : EndCause) (n : Nat) (step : EndStep) (i : Instance)
    (t : Threads κ) : Option (Threads κ) :=
  if step = .joining ∧ ¬ i.monitor.phase.isOver then none
  else some { t.put n (step.act site cause i t.world) with
    listed := if step = .unlisting ∧ t.listed = some n then none else t.listed
    errand := (step.next?.map (.ending cause n)).getD cause.errand }

/-- Lists an instance that was brought up. Its monitor is not started yet. -/
def enlist (i : Instance) (w : World κ) (t : Threads κ) : Threads κ :=
  { t with
    world := w
    instances := t.instances ++ [i]
    listed := some t.instances.length
    errand := .watching t.instances.length }

/-- Launches the provider by the definition that the registry has now. Nobody else refers to the
new instance before it is listed, so a launch counts as one step. -/
def launch (site : Site δ) (id : Text) (t : Threads κ) : Threads κ :=
  match Store.get δ id t.world.files site.registry with
  | .error _ => { t with errand := .idle }
  | .ok d =>
    match Instance.attempt site d t.world with
    | (.error _, _, w) => { t with world := w, errand := .idle }
    | (.ok _, i, w) => t.enlist i w

/-- A step of the holder of the lock. -/
def work (site : Site δ) (id : Text) (t : Threads κ) : Option (Threads κ) :=
  match t.errand with
  | .idle => none
  | .reading n =>
    (t.instances[n]?).map fun i =>
      if i.stage = .stopped then t.condemn id n else { t with errand := .looking n }
  | .looking n =>
    (t.instances[n]?).map fun i =>
      match i.checkAlive t.world, i.kind with
      | (false, made), _ => (t.put n made).condemn id n
      | (true, made), .process => (t.put n made).leave id
      | (true, made), .network => { t.put n made with errand := .probing n }
  | .probing n =>
    (t.instances[n]?).map fun i =>
      match i.checkHealth site.settings t.world with
      | (false, made) => (t.put n made).condemn id n
      | (true, made) => (t.put n made).leave id
  | .ending cause n step => (t.instances[n]?).bind fun i => t.endStep site cause n step i
  | .launching => some (t.launch site id)
  | .watching n =>
    (t.instances[n]?).map fun i =>
      { t.put n (i.startMonitor site.settings t.world, t.world.info (Controller.welcome i)) with
        errand := .idle }

/-- Whether neither the list nor the holder of the lock refers to an instance. -/
def isForgotten (n : Nat) (t : Threads κ) : Bool :=
  t.listed ≠ some n ∧ t.errand.subject? ≠ some n

/-- One step; none if it cannot be taken now. -/
def step (site : Site δ) (id : Text) (t : Threads κ) : ThreadEvent κ → Option (Threads κ)
  | .outside w => some { t with world := w }
  | .traffic n c ring =>
    (t.instances[n]?).map fun i => t.put n ({ i with transport := c, ring := ring }, t.world)
  | .monitor n =>
    (t.instances[n]?).bind fun i =>
      if i.monitor.phase.isOver then none else some (t.put n (i.monitorStep site t.world))
  | .stop =>
    if t.errand = .idle then
      match t.listed with
      | none => some t
      | some n =>
        some { t with
          world := t.world.info ("stopping provider " ++ id)
          errand := .ending .stop n .flagging }
    else none
  | .start =>
    if t.errand = .idle then
      match t.listed with
      | none => some { t with errand := .launching }
      | some n => some { t with errand := .reading n }
    else none
  | .work => t.work site id
  | .find caller =>
    match t.found caller with
    | some _ => none
    | none => some { t with found := fun c => if c = caller then some t.listed else t.found c }
  | .borrow caller =>
    (t.found caller).map fun _ =>
      { t with found := fun c => if c = caller then none else t.found c }
  | .release n =>
    (t.instances[n]?).bind fun i =>
      if t.isForgotten n then some (t.put n (i.releaseChild t.world)) else none

/-- What a caller is answered: the instance whose connection its callback is run on, or a fault. -/
def answer (id : Text) (caller : Nat) (t : Threads κ) : Except Fault Nat :=
  match t.found caller with
  | some (some n) => if t.stage? n = some .running then .ok n else .error (notRunning id)
  | _ => .error (notRunning id)

/-- The threads after some events, all of which can happen when they do. -/
def run (site : Site δ) (id : Text) (t : Threads κ) (events : List (ThreadEvent κ)) :
    Option (Threads κ) :=
  events.foldlM (fun t e => t.step site id e) t

end Threads

end ProviderHost
