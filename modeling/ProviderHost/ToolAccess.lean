import ProviderHost.Lifecycle.Controller

/-!
# Access to the tools of providers

Tools are discovered on a provider that is running, and called by name. What was discovered
belongs to the instance it was discovered on and is forgotten with it. A tool that is known not
to exist is refused without asking the provider.
-/

namespace ProviderHost

inductive ToolAnswer where
  | payload (text : Text)
  | failure (cause : Fault)
  deriving DecidableEq, Repr

/-- Why the host refuses to list or call tools. -/
inductive ToolFault where
  | noTools (id : Text)
  | namelessTool
  | unknownTool (id tool : Text)
  deriving DecidableEq, Repr

namespace ToolFault

def fault : ToolFault → Fault
  | noTools id =>
    { category := .protocol
      message := "Provider " ++ id ++ " declares no tools"
      code := "empty_tool_catalog" }
  | namelessTool =>
    { category := .input
      message := "Tool name cannot be empty"
      code := "invalid_tool_call" }
  | unknownTool id tool =>
    { category := .input
      message := "Provider " ++ id ++ " has no tool named " ++ tool
      code := "tool_not_found" }

end ToolFault

namespace Instance

variable {κ : Type} [Kernel κ]

/-- What a provider without a connection answers. -/
def unconnected : Fault := (TransportFault.notConnected .stdio).fault

def admitted (allow : Transport → Except TransportFault Unit) (i : Instance) :
    Except Fault Peer :=
  match i.transport, i.peer? with
  | some t, some peer => ((allow t).map fun _ => peer).mapError TransportFault.fault
  | _, _ => .error unconnected

def listTools (s : Settings) (i : Instance) (k : κ) : Except Fault (List ToolOffer) × κ :=
  match i.admitted Transport.admitListing with
  | .error f => (.error f, k)
  | .ok peer => Kernel.listTools peer s.discoveryTimeout k

def callTool (s : Settings) (tool arguments : Text) (i : Instance) (k : κ) :
    Except Fault Text × κ :=
  match i.admitted Transport.admitCall with
  | .error f => (.error f, k)
  | .ok peer => Kernel.callTool peer tool arguments s.toolCallTimeout k

end Instance

namespace Controller

variable {δ κ : Type} [Document δ] [Kernel κ]

def discoverOn (id : Text) (i : Instance) (c : Controller δ κ) :
    Except Fault (List ToolOffer) × Controller δ κ :=
  match i.listTools c.site.settings c.world.kernel with
  | (.error f, k) =>
    (.error f,
      { c with
        world := { c.world with kernel := k }.warn
          ("tool discovery on " ++ id ++ " failed: " ++ f.message) })
  | (.ok [], k) =>
    (.error (ToolFault.noTools id).fault, { c with world := { c.world with kernel := k } })
  | (.ok tools, k) =>
    let notice := "discovered " ++ Text.ofNat tools.length ++ " tools on " ++ id
    (.ok tools,
      { c with world := { c.world with kernel := k }.info notice }.setInstance id
        { i with tools := some tools })

def discover (id : Text) (autoStart : Bool) (c : Controller δ κ) :
    Except Fault (List ToolOffer) × Controller δ κ :=
  match if autoStart then (c.start id : Except Fault StartReport × Controller δ κ)
      else (.ok { id := id }, c) with
  | (.error f, c) => (.error f, c)
  | (.ok _, c) =>
    match c.borrow id with
    | .error f => (.error f, c)
    | .ok i => c.discoverOn id i

/-- The tools that were discovered on the instance of a provider that is running. -/
def knownTools? (id : Text) (c : Controller δ κ) : Option (List ToolOffer) :=
  (c.borrow id).toOption.bind (·.tools)

def callOn (id tool arguments : Text) (i : Instance) (c : Controller δ κ) :
    Except Fault Text × Controller δ κ :=
  if i.tools.any fun tools => tools.all (·.name ≠ tool) then
    (.error (ToolFault.unknownTool id tool).fault, c)
  else
    match i.callTool c.site.settings tool arguments c.world.kernel with
    | (outcome, k) => (outcome, { c with world := { c.world with kernel := k } })

def execute (id tool arguments : Text) (c : Controller δ κ) : ToolAnswer × Controller δ κ :=
  if tool = [] then (.failure ToolFault.namelessTool.fault, c)
  else
    match c.borrow id with
    | .error f => (.failure f, c)
    | .ok i =>
      match c.callOn id tool arguments i with
      | (.ok text, c) => (.payload text, c)
      | (.error f, c) =>
        (.failure f,
          { c with
            world := c.world.warn ("tool " ++ tool ++ " on " ++ id ++ " failed: " ++ f.message) })

end Controller

end ProviderHost
