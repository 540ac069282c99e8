import ProviderHost.Lifecycle.Await
import ProviderHost.Lifecycle.Teardown
import ProviderHost.PortArgument

/-!
# Attempts to start a provider

An attempt makes a new instance from a definition: a process is launched or a network address
is read, then the provider is greeted, and then it has to become healthy. An attempt that fails
leaves an instance in the stage of an error with nothing running behind it.
-/

namespace ProviderHost

inductive StartFault where
  | unlaunchable (cause : LaunchFault)
  | badUrl (cause : UrlFault)
  | ungreeted (cause : Fault)
  /-- The process ended; `reason` is what the host noticed first. -/
  | exited (id : Text) (code : Option Nat) (reason : Text)
  | notHealthy (id : Text) (window : Nat)
  deriving DecidableEq, Repr

namespace StartFault

def exitMessage (id : Text) : Option Nat → Text
  | none => "Provider " ++ id ++ " exited during startup"
  | some code => "Provider " ++ id ++ " exited during startup with code " ++ Text.ofNat code

def fault : StartFault → Fault
  | unlaunchable cause => cause.fault
  | badUrl cause => cause.fault
  | ungreeted cause => cause
  | exited id code reason =>
    { category := .launch
      message := exitMessage id code
      code := "process_exited"
      hint := reason }
  | notHealthy id window =>
    { category := .probeTimeout
      message := "Provider " ++ id ++ " did not become healthy within " ++ Text.ofNat window ++ " ms"
      code := "probe_timeout" }

end StartFault

def AwaitVerdict.outcome (id : Text) (window : Nat) : AwaitVerdict → Except StartFault Unit
  | .healthy => .ok ()
  | .exited => .error (.exited id none [])
  | .timedOut => .error (.notHealthy id window)

namespace Instance

variable {δ κ : Type} [Document δ] [Kernel κ]

/-- An instance of a definition that has nothing behind it yet. -/
def ofDefinition (s : Settings) (d : Definition) : Instance :=
  { id := d.id, kind := d.kind, ring := .ofCapacity s.logCapacity }

/-- The address of a process: its own, or a local one at the port of its arguments. -/
def processUrl (s : Settings) (d : Definition) (port : Option Nat) : Text :=
  d.url.getD ("http://localhost:" ++ Text.ofNat (port.getD s.defaultPort))

/-- Where a process answers requests for its health; nowhere unless its definition gives an
address or a port. -/
def healthUrl (d : Definition) (port : Option Nat) (url : Text) : Except StartFault (Option Url) :=
  if d.url.isSome ∨ port.isSome then ((Url.parse url).map some).mapError .badUrl else .ok none

def connectProcess (s : Settings) (d : Definition) (c : Child) (i : Instance) (w : World κ) :
    Except StartFault Unit × Instance × World κ :=
  let port := PortArgument.find d.args
  let w := { w with journal := port.report w.journal }
  let i := { i with child := some c, url := processUrl s d port.port? }
  match healthUrl d port.port? i.url with
  | .error cause => (.error cause, i, w)
  | .ok base =>
    (.ok (), { i with baseUrl := base, transport := some {} },
      w.info ("provider " ++ i.id ++ " launched as pid " ++ Text.ofNat c.pid))

def launchProcess (site : Site δ) (d : Definition) (i : Instance) (w : World κ) :
    Except StartFault Text × Instance × World κ :=
  let resolved := Launch.resolve (SearchPath.find? w.files site.searchPath)
    site.settings.fallbacks d.command d.args
  let w := { w with journal := Launch.report resolved w.journal }
  match resolved with
  | .error cause => (.error (.unlaunchable cause), i, w)
  | .ok launch =>
    match Child.spawn w.files launch (Environment.merge site.environment d.env) w.kernel with
    | (.error cause, k) => (.error (.unlaunchable cause), i, { w with kernel := k })
    | (.ok c, k) =>
      let w := { w with kernel := k, journal := Child.reportSpawn launch (.ok c) w.journal }
      match i.connectProcess site.settings d c w with
      | (outcome, i, w) => (outcome.map fun _ => launch.note, i, w)

def connectNetwork (d : Definition) (i : Instance) : Except StartFault Text × Instance :=
  let url := d.url.getD []
  match Url.parse url with
  | .error cause => (.error (.badUrl cause), i)
  | .ok base =>
    (.ok [], { i with baseUrl := some base, url := url, transport := some { kind := .eventStream } })

/-- Gives an instance something to talk to; answers the note of the launch. -/
def connect (site : Site δ) (d : Definition) (i : Instance) (w : World κ) :
    Except StartFault Text × Instance × World κ :=
  match d.kind with
  | .process => i.launchProcess site d w
  | .network =>
    match i.connectNetwork d with
    | (outcome, i) => (outcome, i, w)

/-- How long the host waits for a process to end that did not answer its greeting. -/
def farewellWait : Nat := 250

/-- Says why a greeting failed: the end of the process, if it comes soon, or else `cause`. -/
def explainSilence (cause : Fault) (i : Instance) (w : World κ) :
    StartFault × Instance × World κ :=
  match i.child with
  | none => (.ungreeted cause, i, w)
  | some c =>
    match c.waitForExit farewellWait w.kernel with
    | (true, c, k) =>
      (.exited i.id c.exitCode cause.message, { i with child := some c }, { w with kernel := k })
    | (false, c, k) => (.ungreeted cause, { i with child := some c }, { w with kernel := k })

def greet (site : Site δ) (i : Instance) (w : World κ) :
    Except StartFault Unit × Instance × World κ :=
  match i.peer? with
  | none => (.ok (), i, w)
  | some peer =>
    match Kernel.greet peer site.settings.handshakeTimeout w.kernel with
    | (.ok server, k) =>
      let met (t : Transport) : Transport := { t with greeted := true, server := server }
      (.ok (), { i with server := server, transport := i.transport.map met }, { w with kernel := k })
    | (.error cause, k) =>
      match i.readLines site { w with kernel := k } with
      | (i, w) =>
        match i.explainSilence cause w with
        | (cause, i, w) => (.error cause, i, w)

/-- Waits until the provider is healthy. -/
def awaitReady (s : Settings) (i : Instance) (w : World κ) :
    Except StartFault Unit × Instance × World κ :=
  match i.awaitHealthy s w.journal w.kernel with
  | (verdict, i, j, k) => (verdict.outcome i.id s.probeWindow, i, ⟨k, j, w.files⟩)

/-- The steps of an attempt after its instance was made, up to the first that fails. -/
def establish (site : Site δ) (d : Definition) (i : Instance) (w : World κ) :
    Except StartFault Text × Instance × World κ :=
  match i.connect site d w with
  | (.error cause, i, w) => (.error cause, i, w)
  | (.ok note, i, w) =>
    match i.greet site w with
    | (.error cause, i, w) => (.error cause, i, w)
    | (.ok (), i, w) =>
      match i.awaitReady site.settings w with
      | (.error cause, i, w) => (.error cause, i, w)
      | (.ok (), i, w) => (.ok note, i, w)

def abandon (site : Site δ) (cause : StartFault) (i : Instance) (w : World κ) :
    Instance × World κ :=
  let w := w.error ("provider " ++ i.id ++ " failed to start: " ++ cause.fault.message)
  match i.retire site false .error w with
  | (i, w) => i.releaseChild w

def attempt (site : Site δ) (d : Definition) (w : World κ) :
    Except StartFault Text × Instance × World κ :=
  match (ofDefinition site.settings d).transition site .starting w with
  | (i, w) =>
    match i.establish site d w with
    | (.error cause, i, w) =>
      match i.abandon site cause w with
      | (i, w) => (.error cause, i, w)
    | (.ok note, i, w) =>
      match i.transition site .running w with
      | (i, w) => (.ok note, i, w)

end Instance

end ProviderHost
