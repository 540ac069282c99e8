import ProviderHost.Lifecycle.Controller

/-!
# Status, output and listings

What the host tells about its providers. Asking for the status of a provider brings the recorded
stage in line with what is found: an instance whose process is gone is cleared away, and a
running or unhealthy one is judged by a probe.
-/

namespace ProviderHost

structure StatusReport where
  id : Text
  stage : Lifecycle := .stopped
  pid : Option Nat := none
  url : Text := []
  server : Option ServerInfo := none
  exitCode : Option Nat := none
  detail : Text := []
  deriving DecidableEq, Repr

structure Listing where
  definition : Definition
  stage : Lifecycle := .stopped
  pid : Option Nat := none
  url : Text := []
  deriving DecidableEq

namespace Controller

variable {δ κ : Type} [Document δ] [Kernel κ]

def absentStatus (id : Text) (s : Slot) : StatusReport :=
  match s.failure with
  | some detail => { id := id, stage := .error, detail := detail }
  | none => { id := id }

/-- What is said of an instance whose process is gone. -/
def departure (id : Text) : Option Nat → Text
  | none => "provider " ++ id ++ " is no longer running"
  | some code => "provider " ++ id ++ " is no longer running (exit code " ++ Text.ofNat code ++ ")"

def clearDead (id : Text) (i : Instance) (c : Controller δ κ) : StatusReport × Controller δ κ :=
  let code := i.child.bind (·.exitCode)
  ({ id := id, exitCode := code },
    { c with world := c.world.warn (departure id code) }.remove id false i)

def judge (id : Text) (i : Instance) (c : Controller δ κ) : StatusReport × Controller δ κ :=
  match i.checkHealth c.site.settings c.world with
  | (healthy, i, w) =>
    let (i, w) := match i.stage.judge? healthy with
      | some next => i.transition c.site next w
      | none => (i, w)
    ({ id := id, stage := i.stage, pid := i.pid?, url := i.url, server := some i.server },
      { c with world := w }.setInstance id i)

def presentStatus (id : Text) (i : Instance) (c : Controller δ κ) :
    StatusReport × Controller δ κ :=
  if i.stage = .stopped then c.clearDead id i
  else
    match i.checkAlive c.world with
    | (true, i, w) => { c with world := w }.judge id i
    | (false, i, w) => { c with world := w }.clearDead id i

def status (id : Text) (c : Controller δ κ) : Except Fault StatusReport × Controller δ κ :=
  match Store.get δ id c.world.files c.site.registry with
  | .error cause => (.error cause.fault, c)
  | .ok _ =>
    match c.instance? id with
    | none => (.ok (absentStatus id (c.slot id)), c)
    | some i =>
      match c.presentStatus id i with
      | (report, c) => (.ok report, c)

/-- The newest lines of a provider's output, oldest first; all of them for a limit of 0. -/
def output (id : Text) (limit : Nat) (c : Controller δ κ) : Except Fault (List LogEntry) :=
  match Store.get δ id c.world.files c.site.registry with
  | .error cause => .error cause.fault
  | .ok _ => .ok (((c.slot id).ring?.map (·.tail limit)).getD [])

def listing (d : Definition) (c : Controller δ κ) : Listing × Controller δ κ :=
  match c.instance? d.id with
  | none =>
    ({ definition := d, stage := if (c.slot d.id).failure.isSome then .error else .stopped }, c)
  | some i =>
    match i.checkAlive c.world with
    | (alive, i, w) =>
      ({ definition := d, stage := if alive then i.stage else .stopped, pid := i.pid?, url := i.url },
        { c with world := w }.setInstance d.id i)

/-- The listings of several entries; an entry that is malformed is left out and reported. -/
def listings : List (Except StoreFault Definition) → Controller δ κ → List Listing × Controller δ κ
  | [], c => ([], c)
  | .error cause :: entries, c =>
    listings entries
      { c with world := c.world.warn ("registry: skipping entry: " ++ cause.fault.message) }
  | .ok d :: entries, c =>
    match c.listing d with
    | (l, c) =>
      match listings entries c with
      | (ls, c) => (l :: ls, c)

def list (c : Controller δ κ) : Except Fault (List Listing) × Controller δ κ :=
  match Store.list δ c.world.files c.site.registry with
  | .error cause => (.error cause.fault, c)
  | .ok entries =>
    match c.listings entries with
    | (ls, c) => (.ok ls, c)

end Controller

end ProviderHost
