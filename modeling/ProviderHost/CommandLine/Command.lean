import ProviderHost.Fault

/-!
# Commands

The commands of the host's command line, its usage text, and what can be wrong with a line.
-/

namespace ProviderHost

inductive Command where
  | list
  | templates
  | install
  | uninstall
  | tools
  | call
  | serve
  | extract
  deriving DecidableEq, Repr

namespace Command

def all : List Command :=
  [.list, .templates, .install, .uninstall, .tools, .call, .serve, .extract]

def name : Command → Text
  | .list => "list"
  | .templates => "templates"
  | .install => "install"
  | .uninstall => "uninstall"
  | .tools => "tools"
  | .call => "call"
  | .serve => "serve"
  | .extract => "extract"

def parse? (t : Text) : Option Command := all.find? fun c => c.name = t

/-- How many words follow the command: the provider's id, and for a call the tool's name. -/
def arity : Command → Nat
  | .uninstall | .tools | .serve => 1
  | .call => 2
  | _ => 0

theorem parse?_name (c : Command) : parse? c.name = some c := by cases c <;> decide

end Command

def usage : Text :=
  ([ "Usage: toolhub [--registry PATH] [--log-level debug|info|warn|error] <command>",
     "  list",
     "  templates",
     "  install --name N [--kind process|network] [--command C] [--arg A]...",
     "          [--env K=V]... [--url U] [--description D] [--credential T] [--id ID]",
     "  install --template T [--set K=V]... [--name N] [--id ID]",
     "  uninstall <id>",
     "  tools <id>",
     "  call <id> <tool> [--args JSON]",
     "  serve <id>",
     "  extract            (reads model output on stdin)" ].map
    fun line => Text.ofString line ++ [Byte.newline]).flatten

inductive CommandLineFault where
  | missingValue (flag : Text)
  | helpRequested
  | unknownArgument (arg : Text)
  | unknownCommand (word : Text)
  | noCommand
  | badLogLevel (value : Text)
  | missingArgument
  | unexpectedArgument (arg : Text)
  | badCallArguments
  | badPair (flag item : Text)
  | templateConflict
  | noNameOrTemplate
  | setWithoutTemplate
  | unknownKind (value : Text)
  | noProcessCommand
  | noNetworkUrl
  deriving DecidableEq, Repr

namespace CommandLineFault

def message : CommandLineFault → Text
  | missingValue flag => "Missing value for " ++ flag
  | helpRequested => "Help requested."
  | unknownArgument arg => "Unknown argument: " ++ arg
  | unknownCommand word => "Unknown command: " ++ word
  | noCommand => "No command provided."
  | badLogLevel value => "Invalid log level: " ++ value
  | missingArgument => "Missing provider id or tool name."
  | unexpectedArgument arg => "Unexpected argument: " ++ arg
  | badCallArguments => "--args must be a JSON object"
  | badPair flag item => "Expected KEY=VALUE for " ++ flag ++ ", got: " ++ item
  | templateConflict => "Cannot combine --template with --command, --kind, --url or --arg"
  | noNameOrTemplate => "install requires --name or --template"
  | setWithoutTemplate => "--set is only valid with --template"
  | unknownKind value => "Unknown provider kind: " ++ value
  | noProcessCommand => "A process provider needs --command"
  | noNetworkUrl => "A network provider needs --url"

def code : CommandLineFault → Text
  | missingValue _ => "missing_value"
  | helpRequested => "help_requested"
  | unknownArgument _ | unexpectedArgument _ => "unknown_argument"
  | unknownCommand _ => "unknown_command"
  | noCommand => "missing_command"
  | badLogLevel _ => "invalid_log_level"
  | missingArgument => "missing_argument"
  | badCallArguments => "invalid_json"
  | badPair _ _ => "invalid_pair"
  | templateConflict | setWithoutTemplate => "conflicting_flags"
  | noNameOrTemplate | noProcessCommand | noNetworkUrl => "missing_required_flag"
  | unknownKind _ => "invalid_kind"

def hint : CommandLineFault → Text
  | helpRequested | unknownCommand _ | noCommand | missingArgument => usage
  | badLogLevel _ => "Use debug, info, warn or error."
  | unknownKind _ => "Use 'process' or 'network'."
  | _ => []

def fault (f : CommandLineFault) : Fault :=
  { category := .input, message := f.message, code := f.code, hint := f.hint }

end CommandLineFault

end ProviderHost
