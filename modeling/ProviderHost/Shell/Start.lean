import ProviderHost.Shell.Evaluate

/-!
# Starting a shell

A shell takes its options, its script and its parameters from its arguments, and its variables
from its environment. The script is a text among the arguments, a file, or what comes in.
-/

namespace ProviderHost.Shell

namespace Start

def standardVariables : List (Text × Text) :=
  [("IFS", [Byte.space, Byte.tab, Byte.newline]), ("OPTIND", [49]), ("PATH", SearchList.standard),
    ("PS1", [35, 32]), ("PS2", [62, 32]), ("PS4", [43, 32])].map
    fun (e : String × Text) => (Text.ofString e.1, e.2)

def importEntry (entry : Text) : Act Unit := do
  match Text.cut Byte.equals entry with
  | (name, some value) => if Word.isName name then Act.setUnchecked name (some value) true false
  | (_, none) => return

def initialDirectory : Act Text := do
  let real ← Act.realDirectory
  match (← get).value? "PWD" with
  | some path =>
    if path.head? ≠ some Byte.slash then return real
    match ← Act.call (.stat path) with
    | .ok facts =>
      return if facts.identity = (← Act.call .workingDirectory) then path else real
    | .error _ => return real
  | none => return real

def importVariables (environment : List Text) : Act Unit := do
  for (name, value) in standardVariables do
    Act.setUnchecked name (some value) false false
  for entry in environment do
    if ¬ Text.startsWith "OPTIND=" entry then importEntry entry
  for name in ["IFS", "OPTIND"] do
    let name := Text.ofString name
    let exported := environment.any fun entry => Text.startsWith (name ++ "=") entry
    let value := ((standardVariables.find? fun e => e.1 = name).map (·.2)).getD []
    Act.setUnchecked name (some value) exported false
  let (pid, parent) ← Act.call .identity
  modify fun s => { s with pid := pid, parent := parent }
  Act.setUnchecked "PPID" (some (Text.ofNat parent)) false false
  Act.noteDirectory (← initialDirectory) none

def readProfile (e : Engine) (path : Text) : Act Unit := do
  match ← Act.call (.stat path) with
  | .error _ => return
  | .ok _ =>
    let fd ← Act.openScript path
    let _ ← (Script.ofSource fd).carryOutApart e
    let _ ← Act.call (.close fd)

/-- Does something; an interactive shell goes on when that fails. Answers whether it did not. -/
def recovers (m : Act Unit) : Act Bool := do
  match ← Act.attempt m with
  | .ok _ => return true
  | .error .error =>
    let s ← get
    if ¬ s.has .interactive ∨ 0 < s.depth then Act.jump .error
    Act.reset .error
    return false
  | .error j => Act.jump j

def recover (m : Act Unit) : Act Unit := do
  let _ ← recovers m

/-- Carries out what comes from a descriptor. What was read already is lost when a command
fails. -/
def serve (e : Engine) (fd : Nat) : Act Unit :=
  Act.iterate (σ := Unit) (fun _ => do
    let script := Script.ofSource fd
    let reader := { script.reader with line := (← get).outermostLine }
    let went ← recovers do
      let _ ← { script with reader := reader, outermost := true }.carryOutApart e
    return if went then .inr () else .inl ()) Act.limit ()

/-- Takes options, script and parameters from the arguments, and carries the script out. -/
def carryOut (e : Engine) (args : List Text) : Act Unit := do
  let r ← Act.setOptions true (args.length + 1) { rest := args.tail }
  if r.script ∧ r.rest = [] then Act.fail "-c requires an argument"
  let asksInput := r.rest = [] ∨ (← get).has .input
  if r.rest = [] then modify fun s => s.setSetting .input true
  modify fun s => { s with putsOff := r.script || ! asksInput }
  if (← get).has .interactive then modify fun s => s.setSetting .monitor true
  let file : Option Text := if r.script ∨ asksInput then none else r.rest.head?
  let source ← file.mapM Act.openScript
  let rest := if r.script ∨ file.isSome then r.rest.tail else r.rest
  let name? := if r.script then rest.head? else file
  modify fun s =>
    { s with
      name := name?.getD s.name
      parameters := if r.script then rest.tail else rest }
  Act.settleSettings
  if (← get).has .interactive then
    for n in [SignalNumber.interrupt, 3, SignalNumber.terminate] do
      Act.armSignal n
  if r.login then
    recover (readProfile e "/etc/profile")
    recover (readProfile e (((← get).value? "HOME").getD [] ++ "/.profile"))
  if (← get).has .interactive then
    match (← get).value? "ENV" with
    | none | some [] => pure ()
    | some path => recover do readProfile e (← Act.prompt e path)
  let mut inputToo := asksInput || ! r.script
  if r.script then
    inputToo := ! (← recovers do
      let _ ← e.evaluate (r.rest.headD []) { final := ! asksInput }) || inputToo
  if inputToo then serve e (source.getD 0)

end Start

def start (args environment : List Text) : Program :=
  let e := engine depthLimit
  let whole : Act Unit := do
    let result ← Act.attempt do
      Start.importVariables environment
      Start.carryOut e args
    e.leave (match result with
      | .ok _ => none
      | .error j => some j)
  whole { name := args.headD [] } (fun _ _ => .exit 2) (fun _ _ => .exit 2)

end ProviderHost.Shell
