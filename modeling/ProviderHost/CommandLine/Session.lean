import ProviderHost.CommandLine.Reply
import ProviderHost.CommandLine.Request
import ProviderHost.Environment
import ProviderHost.ToolCall

/-!
# Sessions

A run of the command line, from its arguments to its exit code: the line is read, then the
settings, and then the command is carried out. A malformed line ends with code 2, malformed
settings with code 3, and a command that fails with code 1. At the end every provider that was
started is stopped.
-/

namespace ProviderHost

/-- What a run is given besides the world it acts on. -/
structure Occasion where
  args : List Text
  environment : List Text := []
  input : Text := []
  /-- The ids to try for a provider that is installed without one. -/
  drawn : List Text := []
  /-- How often a provider that is served is looked after before the user ends it. -/
  patience : Nat := 0

/-- How JSON is read, as far as the command line needs it. -/
structure JsonReader where
  isObject : Text → Bool
  block : Text → Option Json
  object : Text → Candidate Json

def JsonReader.blank : JsonReader := ⟨fun _ => false, fun _ => none, fun _ => .unreadable⟩

structure SessionResult where
  exit : Nat
  printed : Text := []
  journal : Journal := {}
  deriving DecidableEq, Repr

namespace Session

def report (what : String) (f : Fault) (j : Journal) : Journal :=
  let j := j.error (what ++ " [" ++ f.code ++ "]: " ++ f.message)
  if f.hint = [] then j else j.info ("Hint: " ++ f.hint)

def contextOf (r : Request) : Text :=
  if r.providerId = [] then r.command.name else r.command.name ++ " " ++ r.providerId

variable {δ κ : Type}

/-- What a command did: its exit code, what it printed, and the controller as it left it. -/
abbrev Course (δ κ : Type) := Nat × Text × Controller δ κ

def failed (code : Nat) (what : String) (f : Fault) (c : Controller δ κ) : Course δ κ :=
  (code, [], { c with world := { c.world with journal := report what f c.world.journal } })

def answered (reply : Json) (c : Controller δ κ) : Course δ κ := (0, reply.print, c)

variable [Document δ] [Kernel κ]

def runList (c : Controller δ κ) : Course δ κ :=
  match c.list with
  | (.error f, c) => failed 1 "Failed to list providers" f c
  | (.ok listings, c) => answered (.list (listings.map Reply.ofListing)) c

/-- The definition that a request asks to install. What the line says about a template's
definition takes precedence. -/
def definitionOf (r : Request) : Except TemplateFault Definition :=
  match r.template with
  | none => .ok r.definition
  | some id =>
    (Template.instantiate id r.templateValues).map fun d =>
      { d with
        id := r.definition.id
        name := if r.definition.name = [] then d.name else r.definition.name
        description :=
          if r.definition.description = [] then d.description else r.definition.description
        credential := r.definition.credential <|> d.credential
        env := d.env.union r.definition.env }

def runInstall (drawn : List Text) (r : Request) (c : Controller δ κ) : Course δ κ :=
  match definitionOf r with
  | .error cause => failed 2 "Invalid template settings" cause.fault c
  | .ok d =>
    match c.install drawn d with
    | (.error f, c) => failed 1 "Failed to install provider" f c
    | (.ok d, c) => answered (Reply.ofInstalled d) c

def runUninstall (id : Text) (c : Controller δ κ) : Course δ κ :=
  match c.uninstall id with
  | (.error f, c) => failed 1 "Failed to uninstall provider" f c
  | (.ok (), c) => (0, [], { c with world := c.world.info ("Uninstalled " ++ id) })

def runTools (id : Text) (c : Controller δ κ) : Course δ κ :=
  match c.discover id true with
  | (.error f, c) => failed 1 "Tool discovery failed" f c
  | (.ok tools, c) => answered (.list (tools.map Reply.ofTool)) c

def runCall (r : Request) (c : Controller δ κ) : Course δ κ :=
  match c.start r.providerId with
  | (.error f, c) => failed 1 "Failed to start provider" f c
  | (.ok _, c) =>
    let begun := Kernel.now c.world.kernel
    match c.execute r.providerId r.toolName (r.callArguments.getD "\x7b\x7d") with
    | (a, c) =>
      let code := match a with
        | .payload _ => 0
        | .failure _ => 1
      (code, (Reply.ofAnswer (Kernel.now c.world.kernel - begun) a).print, c)

/-- How long a session that serves a provider sleeps between two looks. -/
def servingInterval : Nat := 500

/-- The lines of a provider's output after a number, and the number of the last one. -/
def newLines (id : Text) (last : Nat) (c : Controller δ κ) : Text × Nat :=
  let entries := ((c.output id 0).toOption.getD []).filter (last < ·.sequence)
  (entries.flatMap Reply.ofEntry, (entries.getLast?.map (·.sequence)).getD last)

/-- Looks after a provider until it fails or the user has had enough. -/
def watch (id : Text) : Nat → Nat → Controller δ κ → Course δ κ
  | 0, _, c =>
    (0, [], { c with world := c.world.info ("Received signal 2, stopping " ++ id) }.stop id)
  | looks + 1, last, c =>
    let (lines, last) := newLines id last c
    match c.status id with
    | (.error f, c) =>
      match failed 1 "Status check failed" f c with
      | (code, printed, c) => (code, lines ++ printed, c)
    | (.ok r, c) =>
      if r.stage = .stopped ∨ r.stage = .error then
        (1, lines, { c with world := c.world.error ("Provider " ++ id ++ " stopped unexpectedly") })
      else
        match watch id looks last (c.elapse servingInterval) with
        | (code, printed, c) => (code, lines ++ printed, c)

def runServe (patience : Nat) (id : Text) (c : Controller δ κ) : Course δ κ :=
  match c.start id with
  | (.error f, c) => failed 1 "Failed to start provider" f c
  | (.ok r, c) =>
    match watch id patience 0 c with
    | (code, printed, c) => (code, (Reply.ofStart r).print ++ printed, c)

def runExtract (reader : JsonReader) (input : Text) (j : Journal) : SessionResult :=
  match ToolCall.extract reader.block reader.object input with
  | some call => { exit := 0, printed := call.print, journal := j }
  | none => { exit := 1, journal := j.warn "No tool call found in input" }

def runOnProviders (o : Occasion) (r : Request) (c : Controller δ κ) : Course δ κ :=
  match r.command with
  | .list => runList c
  | .install => runInstall o.drawn r c
  | .uninstall => runUninstall r.providerId c
  | .tools => runTools r.providerId c
  | .call => runCall r c
  | .serve => runServe o.patience r.providerId c
  | .templates | .extract => (2, [], c)

def settingsOf (r : Request) (s : Settings) : Settings :=
  { s with
    registryPath := r.registryPath.getD s.registryPath
    logLevel := r.logLevel.getD s.logLevel }

def carryOut (site : Site δ) (reader : JsonReader) (o : Occasion) (r : Request) (w : World κ) :
    SessionResult :=
  match r.command with
  | .templates =>
    { exit := 0
      printed := (Json.list (Template.builtin.map Reply.ofTemplate)).print
      journal := w.journal }
  | .extract => runExtract reader o.input w.journal
  | _ =>
    let c : Controller δ κ := { site := site, world := w.debug ("Registry: " ++ site.registry) }
    match runOnProviders o r c with
    | (code, printed, c) => ⟨code, printed, c.stopAll.world.journal⟩

/-- The file of the registry in a run that comes to using one. -/
def registry? (reader : JsonReader) (o : Occasion) : Option Text :=
  match Request.parse reader.isObject o.args, Settings.load (Environment.lookup o.environment) with
  | .ok r, .ok s => some (settingsOf r s).registryPath
  | _, _ => none

variable (δ)

def siteOf (o : Occasion) (s : Settings) : Site δ :=
  { settings := s
    searchPath := Environment.lookup o.environment "PATH"
    environment := o.environment }

def run (reader : JsonReader) (o : Occasion) (w : World κ) : SessionResult :=
  match Request.parse reader.isObject o.args with
  | .error .helpRequested => { exit := 0, printed := usage, journal := w.journal }
  | .error cause => { exit := 2, journal := report "Input error" cause.fault w.journal }
  | .ok r =>
    let j := { w.journal with context := contextOf r }
    match Settings.load (Environment.lookup o.environment) with
    | .error cause => { exit := 3, journal := report "Configuration error" cause.fault j }
    | .ok s =>
      let s := settingsOf r s
      carryOut (siteOf δ o s) reader o r { w with journal := { j with threshold := s.logLevel } }

end Session

end ProviderHost
