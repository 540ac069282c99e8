import ProviderHost.CommandLine.Command

/-!
# Reading a command line

The arguments are read from left to right into a draft. Global flags are read anywhere, the
flags of a command after the command; a flag takes the next argument as its value, whatever it
looks like. Reading stops at the first fault.
-/

namespace ProviderHost

structure InstallFlags where
  id : Option Text := none
  name : Option Text := none
  kind : Option Text := none
  command : Option Text := none
  args : List Text := []
  env : List Text := []
  url : Option Text := none
  description : Option Text := none
  credential : Option Text := none
  template : Option Text := none
  sets : List Text := []
  deriving DecidableEq, Repr

abbrev InstallFlags.Setter := Text → InstallFlags → InstallFlags

def InstallFlags.setters : List (Text × InstallFlags.Setter) :=
  [ ("--id", fun v f => { f with id := some v }),
    ("--name", fun v f => { f with name := some v }),
    ("--kind", fun v f => { f with kind := some v }),
    ("--command", fun v f => { f with command := some v }),
    ("--arg", fun v f => { f with args := f.args ++ [v] }),
    ("--env", fun v f => { f with env := f.env ++ [v] }),
    ("--url", fun v f => { f with url := some v }),
    ("--description", fun v f => { f with description := some v }),
    ("--credential", fun v f => { f with credential := some v }),
    ("--template", fun v f => { f with template := some v }),
    ("--set", fun v f => { f with sets := f.sets ++ [v] }) ]

structure Draft where
  registryPath : Option Text := none
  logLevel : Option Text := none
  command : Option Command := none
  words : List Text := []
  install : InstallFlags := {}
  callArguments : Option Text := none
  deriving DecidableEq, Repr

/-- What an argument is, given what was read before it. -/
inductive Argument where
  | flag (keep : Text → Draft)
  | word (draft : Draft)
  | fault (cause : CommandLineFault)

namespace Draft

def flagLike (arg : Text) : Bool := Text.startsWith "--" arg

def plain (d : Draft) (arg : Text) : Argument :=
  if flagLike arg then .fault (.unknownArgument arg)
  else .word { d with words := d.words ++ [arg] }

def afterCommand (d : Draft) (c : Command) (arg : Text) : Argument :=
  match c with
  | .install =>
    if flagLike arg then
      match InstallFlags.setters.find? fun s => s.1 = arg with
      | some (_, keep) => .flag fun v => { d with install := keep v d.install }
      | none => .fault (.unknownArgument arg)
    else d.plain arg
  | .call =>
    if arg = "--args" then .flag fun v => { d with callArguments := some v } else d.plain arg
  | _ => d.plain arg

def beforeCommand (d : Draft) (arg : Text) : Argument :=
  if flagLike arg then .fault (.unknownArgument arg)
  else
    match Command.parse? arg with
    | some c => .word { d with command := some c }
    | none => .fault (.unknownCommand arg)

def read (d : Draft) (arg : Text) : Argument :=
  if arg = "--registry" then .flag fun v => { d with registryPath := some v }
  else if arg = "--log-level" then .flag fun v => { d with logLevel := some v }
  else if arg = "--help" ∨ arg = "-h" then .fault .helpRequested
  else
    match d.command with
    | none => d.beforeCommand arg
    | some c => d.afterCommand c arg

def scan : Draft → List Text → Except CommandLineFault Draft
  | d, [] => .ok d
  | d, arg :: rest =>
    match d.read arg with
    | .fault cause => .error cause
    | .word d' => scan d' rest
    | .flag keep =>
      match rest with
      | [] => .error (.missingValue arg)
      | v :: rest => scan (keep v) rest

end Draft

end ProviderHost
