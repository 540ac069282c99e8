import ProviderHost.Lifecycle.Attempt

/-!
# The controller

The controller holds the instances, at most one for a provider, and remembers for every provider
the output of its last instance and why its last attempt to start failed. Starting a provider
that is in use changes nothing; stopping one never fails; and a provider with an instance is in
use as far as the registry is concerned, whatever the stage of the instance.
-/

namespace ProviderHost

/-- What the controller knows of a provider. -/
structure Slot where
  /-- The instance, from a successful start until it is stopped. -/
  live : Option Instance := none
  /-- The output of an instance that is gone, if it is newer than the one that is there. -/
  past : Option LogRing := none
  failure : Option Text := none

def Slot.ring? (s : Slot) : Option LogRing := s.past <|> s.live.map (·.ring)

def Slot.detach (i : Instance) (s : Slot) : Slot :=
  { s with live := none, past := s.past <|> some i.ring }

structure Controller (δ κ : Type) where
  site : Site δ
  world : World κ
  slots : Table Slot := .empty

structure StartReport where
  id : Text
  alreadyRunning : Bool := false
  /-- The number of the process; none for a network provider. -/
  pid : Option Nat := none
  url : Text := []
  /-- Says which command was replaced by which, if one was. -/
  note : Text := []
  server : ServerInfo := {}
  deriving DecidableEq, Repr

namespace StartReport

def ofRunning (i : Instance) : StartReport :=
  { id := i.id, alreadyRunning := true, pid := i.pid?, url := i.url, server := i.server }

def ofStarted (note : Text) (i : Instance) : StartReport :=
  { id := i.id, pid := i.pid?, url := i.url, note := note, server := i.server }

end StartReport

def notRunning (id : Text) : Fault :=
  { category := .configuration
    message := "Provider " ++ id ++ " is not running"
    code := "provider_not_running"
    hint := "Start the provider first." }

namespace Controller

variable {δ κ : Type}

def slot (id : Text) (c : Controller δ κ) : Slot := (c.slots.get? id).getD {}

def setSlot (id : Text) (s : Slot) (c : Controller δ κ) : Controller δ κ :=
  { c with slots := c.slots.insert id s }

def instance? (id : Text) (c : Controller δ κ) : Option Instance := (c.slot id).live

def hasInstance (id : Text) (c : Controller δ κ) : Bool := (c.instance? id).isSome

def setInstance (id : Text) (i : Instance) (c : Controller δ κ) : Controller δ κ :=
  c.setSlot id { c.slot id with live := some i }

def occupied (c : Controller δ κ) : List Text := c.slots.keys.filter (c.hasInstance ·)

def borrow (id : Text) (c : Controller δ κ) : Except Fault Instance :=
  match (c.instance? id).filter (·.stage = .running) with
  | some i => .ok i
  | none => .error (notRunning id)

variable [Document δ] [Kernel κ]

def onInstance (id : Text) (act : Instance → World κ → Instance × World κ)
    (c : Controller δ κ) : Controller δ κ :=
  match c.instance? id with
  | none => c
  | some i =>
    match act i c.world with
    | (i, w) => { c with world := w }.setInstance id i

/-- Brings an instance to its end and takes it out of its slot. -/
def takeOut (id : Text) (graceful : Bool) (i : Instance) (c : Controller δ κ) :
    Instance × Controller δ κ :=
  match i.retire c.site graceful .stopped c.world with
  | (i, w) =>
    match i.releaseChild w with
    | (i, w) => (i, { c with world := w }.setSlot id ((c.slot id).detach i))

def remove (id : Text) (graceful : Bool) (i : Instance) (c : Controller δ κ) : Controller δ κ :=
  (c.takeOut id graceful i).2

/-- The world in which a stop goes to work. -/
def announceStop (id : Text) (c : Controller δ κ) : World κ :=
  c.world.info ("stopping provider " ++ id)

def evict (id : Text) (c : Controller δ κ) : Option Instance × Controller δ κ :=
  match c.instance? id with
  | none => (none, c)
  | some i =>
    match { c with world := c.announceStop id }.takeOut id true i with
    | (i, c) => (some i, c)

/-- Stops a provider; without an instance there is nothing to do. -/
def halt (id : Text) (c : Controller δ κ) : Except Fault Unit × Controller δ κ :=
  match c.evict id with
  | (_, c) => (.ok (), c)

def stop (id : Text) (c : Controller δ κ) : Controller δ κ := (c.halt id).2

/-- Whether a stop comes back. -/
def stopEnds (id : Text) (c : Controller δ κ) : Bool :=
  (c.instance? id).all fun i => i.stopEnds c.site (c.announceStop id)

/-- What a call of `stop` comes to. It comes to nothing if a wait on its way does not end. -/
def stop? (id : Text) (c : Controller δ κ) : Option (Except Fault Unit × Controller δ κ) :=
  if c.stopEnds id then some (c.halt id) else none

/-- Stops a provider among others. One that could not be stopped would only be reported. -/
def stopNext (c : Controller δ κ) (id : Text) : Controller δ κ :=
  match c.halt id with
  | (.ok (), c) => c
  | (.error cause, c) =>
    { c with world := c.world.error ("failed to stop provider " ++ id ++ ": " ++ cause.message) }

def stopAll (c : Controller δ κ) : Controller δ κ := c.occupied.foldl stopNext c

/-- What stopping all providers comes to, if each of the stops comes back. -/
def stopAll? (c : Controller δ κ) : Option (Controller δ κ) :=
  c.occupied.foldlM (fun c id => if c.stopEnds id then some (c.stopNext id) else none) c

/-- Takes in an instance that was started elsewhere. One that was there is given up. -/
def adopt (i : Instance) (c : Controller δ κ) : Controller δ κ :=
  let w := match c.instance? i.id with
    | some old => (old.discard c.site c.world).2
    | none => c.world
  { c with world := w }.setSlot i.id { c.slot i.id with live := some i, past := none }

def welcome (i : Instance) : Text :=
  "provider " ++ i.id ++ " is running (" ++ i.server.name ++ " " ++ i.server.version ++ ")"

/-- Launches a provider. A failed attempt leaves the instance that is there alone. -/
def launch (d : Definition) (c : Controller δ κ) : Except Fault StartReport × Controller δ κ :=
  match Instance.attempt c.site d c.world with
  | (.error cause, i, w) =>
    (.error cause.fault,
      { c with world := w }.setSlot d.id
        { c.slot d.id with past := some i.ring, failure := some cause.fault.message })
  | (.ok note, i, w) =>
    let c := { c with world := w }.adopt (i.startMonitor c.site.settings w)
    (.ok (StartReport.ofStarted note i),
      { c with world := c.world.info (welcome i) }.setSlot i.id
        { c.slot i.id with failure := none })

/-- Launches a provider by the definition that the registry has now. -/
def startAnew (id : Text) (c : Controller δ κ) : Except Fault StartReport × Controller δ κ :=
  match Store.get δ id c.world.files c.site.registry with
  | .error cause => (.error cause.fault, c)
  | .ok d => c.launch d

/-- Starts a provider. One that is in use is left alone; what is left of one that is not is
cleared away first. -/
def start (id : Text) (c : Controller δ κ) : Except Fault StartReport × Controller δ κ :=
  match c.instance? id with
  | none => c.startAnew id
  | some i =>
    match i.checkLive c.site.settings c.world with
    | (true, i, w) =>
      (.ok (StartReport.ofRunning i),
        { c with world := w.info ("provider " ++ id ++ " is already running") }.setInstance id i)
    | (false, i, w) =>
      let w := w.warn ("provider " ++ id ++ " has a stale instance, restarting")
      ({ c with world := w }.remove id false i).startAnew id

/-- Adds a provider to the registry; `drawn` are the ids to try when the definition has none. -/
def install (drawn : List Text) (d : Definition) (c : Controller δ κ) :
    Except Fault Definition × Controller δ κ :=
  match Store.create δ drawn d c.world.files c.site.registry with
  | (r, files) => (r.mapError StoreFault.fault, { c with world := { c.world with files := files } })

def update (id : Text) (p : Patch) (c : Controller δ κ) :
    Except Fault Definition × Controller δ κ :=
  match Store.update δ (c.hasInstance ·) id p c.world.files c.site.registry with
  | (r, files) => (r.mapError StoreFault.fault, { c with world := { c.world with files := files } })

/-- Removes a provider, which is stopped first. What is known of it is only forgotten once the
registry has removed it. -/
def uninstall (id : Text) (c : Controller δ κ) : Except Fault Unit × Controller δ κ :=
  match c.halt id with
  | (.error cause, c) => (.error cause, c)
  | (.ok (), c) =>
    match Store.remove δ (c.hasInstance ·) id c.world.files c.site.registry with
    | (.error cause, files) =>
      (.error cause.fault, { c with world := { c.world with files := files } })
    | (.ok (), files) =>
      (.ok (), { c with world := { c.world with files := files }, slots := c.slots.erase id })

/-- What goes on by itself for a provider: its output is read, and its monitor does a round when
the timer has fired. -/
def attend (id : Text) (c : Controller δ κ) : Controller δ κ :=
  c.onInstance id fun i w =>
    match i.readLines c.site w with
    | (i, w) => i.monitorRound c.site w

def attendAll (c : Controller δ κ) : Controller δ κ := c.occupied.foldl (fun c id => c.attend id) c

def elapse (duration : Nat) (c : Controller δ κ) : Controller δ κ :=
  { c with world := { c.world with kernel := Kernel.sleep duration c.world.kernel } }.attendAll

/-- Time passes until something holds, for at most `limit` milliseconds. -/
def elapseUntil (done : Controller δ κ → Bool) : Nat → Controller δ κ → Controller δ κ
  | 0, c => c
  | limit + 1, c => if done c then c else elapseUntil done limit (c.elapse 1)

end Controller

end ProviderHost
