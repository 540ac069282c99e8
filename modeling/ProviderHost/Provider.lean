import ProviderHost.Text.Table
import ProviderHost.Url

/-!
# Providers

A provider is a program that offers tools, described by a definition. A process provider is
spawned by the host and spoken to over its standard streams; a network provider is already
reachable at a URL.
-/

namespace ProviderHost

inductive ProviderKind where
  | process
  | network
  deriving DecidableEq, Repr

namespace ProviderKind

def all : List ProviderKind := [.process, .network]

def name : ProviderKind → Text
  | .process => "process"
  | .network => "network"

/-- The kind of a name; `stdio` and `sse` are the older names. -/
def parse? (t : Text) : Option ProviderKind :=
  if t = "process" ∨ t = "stdio" then some .process
  else if t = "network" ∨ t = "sse" then some .network
  else none

end ProviderKind

inductive Lifecycle where
  | stopped
  | starting
  | running
  | unhealthy
  | error
  deriving DecidableEq, Repr

namespace Lifecycle

def all : List Lifecycle := [.stopped, .starting, .running, .unhealthy, .error]

def name : Lifecycle → Text
  | .stopped => "stopped"
  | .starting => "starting"
  | .running => "running"
  | .unhealthy => "unhealthy"
  | .error => "error"

def parse? (t : Text) : Option Lifecycle := all.find? fun s => s.name = t

end Lifecycle

inductive Stream where
  | out
  | err
  deriving DecidableEq, Repr

def Stream.name : Stream → Text
  | .out => "out"
  | .err => "err"

/-- What a provider says about itself when it is greeted. -/
structure ServerInfo where
  name : Text := "Unknown Server"
  version : Text := "Unknown Version"
  protocolVersion : Text := "Unknown"
  deriving DecidableEq, Repr

structure ToolOffer where
  name : Text
  description : Text
  deriving DecidableEq, Repr

structure Definition where
  id : Text := []
  name : Text := []
  description : Text := []
  kind : ProviderKind := .process
  command : Text := []
  args : List Text := []
  env : Table Text := .empty
  url : Option Text := none
  credential : Option Text := none
  status : Text := "stopped"
  deriving DecidableEq

inductive DefinitionFault where
  | unnamed
  | noCommand (name : Text)
  | noUrl (name : Text)
  | badUrl (cause : UrlFault)
  deriving DecidableEq, Repr

def DefinitionFault.fault : DefinitionFault → Fault
  | .unnamed =>
    { category := .configuration
      message := "Provider name cannot be empty"
      code := "invalid_definition" }
  | .noCommand name =>
    { category := .configuration
      message := "Process provider " ++ name ++ " needs a command"
      code := "invalid_definition" }
  | .noUrl name =>
    { category := .configuration
      message := "Network provider " ++ name ++ " needs a url"
      code := "invalid_definition" }
  | .badUrl cause => cause.fault

def Definition.check (d : Definition) : Except DefinitionFault Unit :=
  if d.name = [] then .error .unnamed
  else
    match d.kind with
    | .process => if d.command = [] then .error (.noCommand d.name) else .ok ()
    | .network =>
      match d.url with
      | none => .error (.noUrl d.name)
      | some url =>
        if url = [] then .error (.noUrl d.name)
        else
          match Url.parse url with
          | .ok _ => .ok ()
          | .error cause => .error (.badUrl cause)

/-- A change to a definition; an absent field keeps its value. -/
structure Patch where
  /-- Accepted only when it is the id that the provider has. -/
  id : Option Text := none
  name : Option Text := none
  description : Option Text := none
  kind : Option ProviderKind := none
  command : Option Text := none
  args : Option (List Text) := none
  env : Option (Table Text) := none
  url : Option Text := none
  credential : Option Text := none

def Patch.changesLaunch (p : Patch) : Bool :=
  p.kind.isSome || p.command.isSome || p.args.isSome || p.env.isSome || p.url.isSome

def Patch.apply (p : Patch) (d : Definition) : Definition :=
  { d with
    name := p.name.getD d.name
    description := p.description.getD d.description
    kind := p.kind.getD d.kind
    command := p.command.getD d.command
    args := p.args.getD d.args
    env := p.env.getD d.env
    url := p.url <|> d.url
    credential := p.credential <|> d.credential }

end ProviderHost
