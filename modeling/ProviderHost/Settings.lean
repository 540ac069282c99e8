import ProviderHost.Journal
import ProviderHost.Text.Decimal

/-!
# Settings of the host

Durations are in milliseconds. Every numeric setting has a default and a variable of the
environment that overrides it within bounds; `Settings.load` reads them in a fixed order and
answers the first fault it meets.
-/

namespace ProviderHost

/-- How the arguments of a replaced command are rewritten. -/
inductive ArgumentChange where
  /-- A leading `run` becomes `-y`; without one, `-y` is put in front. -/
  | replaceLeadingRun
  | prependYes
  deriving DecidableEq, Repr

def ArgumentChange.name : ArgumentChange → Text
  | .replaceLeadingRun => "replace_leading_run"
  | .prependYes => "prepend_yes"

/-- A launcher that may be missing, and the command used in its place. -/
structure Fallback where
  primary : Text
  replacement : Text
  change : ArgumentChange := .prependYes
  deriving DecidableEq, Repr

structure Settings where
  registryPath : Text := []
  probeInterval : Nat := 1000
  probeWindow : Nat := 30000
  probeRequestTimeout : Nat := 2000
  stopGrace : Nat := 3000
  handshakeTimeout : Nat := 10000
  discoveryTimeout : Nat := 10000
  toolCallTimeout : Nat := 30000
  shutdownTimeout : Nat := 3000
  reconnectInitial : Nat := 1000
  reconnectMax : Nat := 5000
  logCapacity : Nat := 1000
  defaultPort : Nat := 3500
  healthPath : Text := "/health"
  rpcPath : Text := "/jsonrpc"
  eventPath : Text := "/sse/"
  fallbacks : List Fallback :=
    [⟨"uv", "npx", .replaceLeadingRun⟩, ⟨"uvx", "npx", .prependYes⟩]
  logLevel : Level := .info
  deriving DecidableEq, Repr

inductive SettingsFault where
  | notANumber (variableName value : Text)
  | outOfBounds (variableName value : Text) (least greatest : Nat)
  | intervalExceedsWindow
  | unknownLevel (value : Text)
  deriving DecidableEq, Repr

def SettingsFault.fault : SettingsFault → Fault
  | .notANumber variableName value =>
    { category := .input
      message := "Invalid number for " ++ variableName ++ ": " ++ value
      code := "invalid_integer"
      hint := "Provide a non-negative integer." }
  | .outOfBounds variableName value least greatest =>
    { category := .input
      message := variableName ++ " out of bounds: " ++ value
      code := "bounds_error"
      hint := "Must be between " ++ Text.ofNat least ++ " and " ++ Text.ofNat greatest ++ "." }
  | .intervalExceedsWindow =>
    { category := .input
      message := "TOOLHUB_PROBE_INTERVAL_MS exceeds TOOLHUB_PROBE_WINDOW_MS"
      code := "conflicting_settings" }
  | .unknownLevel value =>
    { category := .input
      message := "Unknown log level: " ++ value
      code := "invalid_log_level"
      hint := "Use debug, info, warn or error." }

/-- A numeric setting: its variable, its bounds, and the field it sets, with the number of bits
that the field holds. -/
structure NumericSetting where
  variableName : Text
  least : Nat
  greatest : Nat
  bits : Nat
  set : Nat → Settings → Settings

abbrev Lookup := Text → Option Text

namespace Settings

/-- The longest duration that can be set: ten minutes. -/
def longest : Nat := 600000

def numeric : List NumericSetting :=
  [ ⟨"TOOLHUB_PROBE_INTERVAL_MS", 10, longest, 32, fun n s => { s with probeInterval := n }⟩,
    ⟨"TOOLHUB_PROBE_WINDOW_MS", 10, longest, 32, fun n s => { s with probeWindow := n }⟩,
    ⟨"TOOLHUB_STOP_GRACE_MS", 0, longest, 32, fun n s => { s with stopGrace := n }⟩,
    ⟨"TOOLHUB_HANDSHAKE_TIMEOUT_MS", 1, longest, 32, fun n s => { s with handshakeTimeout := n }⟩,
    ⟨"TOOLHUB_DISCOVERY_TIMEOUT_MS", 1, longest, 32, fun n s => { s with discoveryTimeout := n }⟩,
    ⟨"TOOLHUB_TOOL_CALL_TIMEOUT_MS", 1, longest, 32, fun n s => { s with toolCallTimeout := n }⟩,
    ⟨"TOOLHUB_LOG_CAPACITY", 1, 1000000, 64, fun n s => { s with logCapacity := n }⟩,
    ⟨"TOOLHUB_DEFAULT_PORT", 1, 65535, 16, fun n s => { s with defaultPort := n }⟩ ]

/-- The value of a variable, if it is set and not empty. -/
def given? (env : Lookup) (variableName : Text) : Option Text :=
  (env variableName).filter (· ≠ [])

/-- Reads one numeric setting; digits of a value that does not fit 64 bits are no number. What is
within the bounds is narrowed to the width of the field. -/
def readNumber (env : Lookup) (s : Settings) (n : NumericSetting) :
    Except SettingsFault Settings :=
  match given? env n.variableName with
  | none => .ok s
  | some raw =>
    match Text.toWord? 64 raw with
    | none => .error (.notANumber n.variableName raw)
    | some value =>
      if value < n.least ∨ n.greatest < value then
        .error (.outOfBounds n.variableName raw n.least n.greatest)
      else .ok (n.set (value % Text.wordCount n.bits) s)

def pathIn (directory name : Text) : Text :=
  if directory.getLast? = some Byte.slash then directory ++ name else directory ++ "/" ++ name

/-- Where the registry is unless the environment says otherwise: below the home directory, or
below the working directory when there is none. -/
def defaultRegistryPath (env : Lookup) : Text :=
  match given? env "HOME" with
  | some home => pathIn home ".toolhub/providers.json"
  | none => ".toolhub/providers.json"

def readLevel (env : Lookup) (s : Settings) : Except SettingsFault Settings :=
  match given? env "TOOLHUB_LOG_LEVEL" with
  | none => .ok s
  | some raw =>
    match Level.parse? raw with
    | none => .error (.unknownLevel raw)
    | some level => .ok { s with logLevel := level }

def load (env : Lookup) : Except SettingsFault Settings := do
  let registryPath := (given? env "TOOLHUB_REGISTRY").getD (defaultRegistryPath env)
  let s ← numeric.foldlM (readNumber env) { registryPath := registryPath }
  if s.probeWindow < s.probeInterval then throw .intervalExceedsWindow
  readLevel env s

end Settings

end ProviderHost
