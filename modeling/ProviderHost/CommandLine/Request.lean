import ProviderHost.CommandLine.Draft
import ProviderHost.Journal
import ProviderHost.Provider.Template

/-!
# Requests

A command line that was read and checked. What counts as a JSON object is a parameter of the
check, since reading JSON is not the command line's work.
-/

namespace ProviderHost

/-- What the host is asked to do, with everything the command needs. -/
structure Request where
  command : Command
  registryPath : Option Text := none
  logLevel : Option Level := none
  providerId : Text := []
  definition : Definition := {}
  template : Option Text := none
  templateValues : Table Text := .empty
  toolName : Text := []
  callArguments : Option Text := none
  deriving DecidableEq

namespace Request

def pair? (item : Text) : Option (Text × Text) :=
  match Text.cut Byte.equals item with
  | (key, some value) => if key = [] then none else some (key, value)
  | (_, none) => none

/-- The pairs of a repeated flag; of two pairs with one key the later counts. -/
def pairs (flag : Text) (items : List Text) : Except CommandLineFault (Table Text) :=
  items.foldlM (fun t item =>
    match pair? item with
    | some (key, value) => .ok (t.insert key value)
    | none => .error (.badPair flag item)) .empty

def checkSource (f : InstallFlags) (values : Table Text) : Except CommandLineFault Unit :=
  match f.template with
  | some _ =>
    if f.command.isSome ∨ f.kind.isSome ∨ f.url.isSome ∨ f.args ≠ [] then
      .error .templateConflict
    else .ok ()
  | none =>
    if f.name.isNone then .error .noNameOrTemplate
    else if values.entries ≠ [] then .error .setWithoutTemplate
    else .ok ()

def kindOf (kind : Option Text) : Except CommandLineFault ProviderKind :=
  match kind with
  | none => .ok .process
  | some k =>
    match ProviderKind.parse? k with
    | some kind => .ok kind
    | none => .error (.unknownKind k)

/-- Checks that a definition without a template can be launched or reached. -/
def checkReachable (f : InstallFlags) (d : Definition) : Except CommandLineFault Unit :=
  if f.template.isSome then .ok ()
  else
    match d.kind with
    | .process => if d.command = [] then .error .noProcessCommand else .ok ()
    | .network => if d.url.isNone then .error .noNetworkUrl else .ok ()

def ofInstall (r : Request) (f : InstallFlags) : Except CommandLineFault Request := do
  let values ← pairs "--set" f.sets
  checkSource f values
  let kind ← kindOf f.kind
  let env ← pairs "--env" f.env
  let definition : Definition :=
    { id := f.id.getD []
      name := f.name.getD []
      description := f.description.getD []
      kind := kind
      command := f.command.getD []
      args := f.args
      env := env
      url := f.url
      credential := f.credential }
  checkReachable f definition
  return { r with definition := definition, template := f.template, templateValues := values }

def levelOf (level : Option Text) : Except CommandLineFault (Option Level) :=
  match level with
  | none => .ok none
  | some v =>
    match Level.parse? v with
    | some l => .ok (some l)
    | none => .error (.badLogLevel v)

def checkWords (c : Command) (words : List Text) : Except CommandLineFault Unit :=
  if words.length < c.arity then .error .missingArgument
  else
    match words[c.arity]? with
    | some extra => .error (.unexpectedArgument extra)
    | none => .ok ()

def checkCallArguments (isObject : Text → Bool) (arguments : Option Text) :
    Except CommandLineFault Unit :=
  if arguments.all isObject then .ok () else .error .badCallArguments

def ofDraft (isObject : Text → Bool) (d : Draft) : Except CommandLineFault Request := do
  let some command := d.command | throw .noCommand
  let level ← levelOf d.logLevel
  checkWords command d.words
  checkCallArguments isObject d.callArguments
  let r : Request :=
    { command := command
      registryPath := d.registryPath
      logLevel := level
      providerId := d.words[0]?.getD []
      toolName := d.words[1]?.getD []
      callArguments := d.callArguments }
  if command = .install then r.ofInstall d.install else return r

def parse (isObject : Text → Bool) (args : List Text) : Except CommandLineFault Request :=
  Draft.scan {} args >>= ofDraft isObject

end Request

end ProviderHost
