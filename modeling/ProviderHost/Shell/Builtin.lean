import ProviderHost.Shell.Condition
import ProviderHost.Shell.Directory
import ProviderHost.Shell.Execution
import ProviderHost.Shell.Format
import ProviderHost.Shell.JobCommand
import ProviderHost.Shell.Parameter
import ProviderHost.Shell.Resource
import ProviderHost.Shell.Script

/-!
# The commands of a shell's own

What each of them does with its arguments, and the status that it leaves.
-/

namespace ProviderHost.Shell

namespace Act

/-! ### Control -/

def breakLoops (again : Bool) (args : List Text) : Act Nat := do
  let n ← match args with
    | [] => pure 1
    | t :: _ => number t
  if n = 0 then refuseNumber (args.headD [])
  let n := min n (← get).loops
  if 0 < n then
    modify fun s =>
      { s with skip := if again then Skip.continue_ else Skip.break_, skipCount := n }
  return 0

def returnFrom (args : List Text) : Act Nat := do
  match args with
  | [] =>
    let status := (← get).status
    modify fun s => { s with skip := .return_ false }
    return status
  | t :: _ =>
    let n ← number t
    modify fun s => { s with skip := .return_ true }
    return n

def exit (args : List Text) : Act Nat := do
  match args with
  | [] => pure ()
  | t :: _ =>
    let n ← number t
    modify fun s => { s with savedStatus := some n }
  jump .exit

def evaluate (e : Engine) (m : Mode) (args : List Text) : Act Nat := do
  if args = [] then return 0
  e.evaluate (Text.join " " args) { tested := m.tested }

def scriptPath (name : Text) : Act Text := do
  if name.contains Byte.slash then return name
  let rec find : List Text → Act Text
    | [] => fail (name ++ ": not found")
    | path :: rest => do
      match ← call (.stat path) with
      | .ok facts => if facts.kind = .regular then return path else find rest
      | .error _ => find rest
  find (SearchList.candidates (← searchPath) name)

def scriptDescriptor : Nat := 10

def openScript (path : Text) : Act Nat := do
  match ← call (.openFile path { reads := true }) with
  | .error cause =>
    fail ("cannot open " ++ path ++ ": " ++
      match cause with
      | .missing | .notDirectory => Text.ofString "No such file"
      | cause => cause.message)
  | .ok fd =>
    if scriptDescriptor ≤ fd then return fd
    match ← call (.duplicate fd scriptDescriptor true) with
    | .ok copy =>
      let _ ← call (.close fd)
      return copy
    | .error _ => return fd

def source (e : Engine) (args : List Text) : Act Nat := do
  match ← operands args with
  | [] => return 0
  | name :: _ =>
    let path ← scriptPath name
    let fd ← openScript path
    modify fun s => { s with command := some path }
    let result ← attempt ((Script.ofSource fd).carryOutApart e)
    let _ ← call (.close fd)
    match result with
    | .ok status => return status
    | .error j => jump j

def exec (args : List Text) : Act Nat := do
  match ← operands args with
  | [] => return 0
  | args =>
    modify fun s => (s.setSetting .interactive false).setSetting .monitor false
    execute args (← searchPath) 0

def describeCommand (args : List Text) : Act Nat := do
  let (given, rest) ← options "pvV" args
  let has (b : UInt8) : Bool := given.any (·.letter == b)
  match rest with
  | name :: _ =>
    if has 118 ∨ has 86 then
      describe name (if has 112 then some SearchList.standard else none) (has 86)
    else return 0
  | [] => return 0

def describeAll (names : List Text) : Act Nat := do
  let mut status := 0
  for name in names do
    status := status ||| (← describe name none true)
  return status

/-! ### Output and conditions -/

def printFormat (args : List Text) : Act Nat := do
  match ← operands args with
  | [] => fail "usage: printf format [arg ...]"
  | format :: args =>
    let (outcome, r) := Format.print format args
    for message in r.complaints do
      complain message
    print r.out.reverse
    match outcome with
    | .fault message => fail message
    | _ => return if r.complaints = [] then 0 else 1

/-- Tests a condition. The bracket that closes it is known by its first byte. -/
def test (called : Text) (args : List Text) : Act Nat := do
  let words ←
    if called = "[" then
      if args.getLast?.bind (·.head?) = some 93 then pure args.dropLast
      else fail "missing ]"
    else pure args
  return if ← Condition.decideWords words then 0 else 1

/-! ### Traps -/

def listTraps : Act Unit := do
  let s ← get
  for n in List.range SignalNumber.bound do
    match trap? s n with
    | some action => print ("trap -- " ++ quote action ++ " " ++ SignalNumber.name n ++ "\n")
    | none => pure ()

def setTraps (action : Option Text) : List Text → Act Nat
  | [] => return 0
  | name :: rest => do
    match signalNumber? 0 name with
    | some n =>
      setTrap n action
      setTraps action rest
    | none =>
      say ("trap: " ++ name ++ ": bad trap\n")
      return 1

def trap (args : List Text) : Act Nat := do
  match ← operands args with
  | [] =>
    listTraps
    return 0
  | [name] => setTraps none [name]
  | action :: names => setTraps (if action = "-" then none else some action) names

/-! ### All commands -/

def perform (e : Engine) (m : Mode) (called : Text) (args : List Text) : Builtin → Act Nat
  | .alias_ => alias_ args
  | .bg | .fg => continueJob args
  | .break_ => breakLoops false args
  | .cd => cd args
  | .command => describeCommand args
  | .continue_ => breakLoops true args
  | .dot => source e args
  | .echo => do
    print (Escape.echo args)
    return 0
  | .eval => evaluate e m args
  | .exec => exec args
  | .exit => exit args
  | .export_ => declare called true args
  | .false_ => return 1
  | .getopts => getopts args
  | .hash => hash args
  | .jobs => jobs args
  | .kill => kill args
  | .local_ => declareLocal args
  | .printf => printFormat args
  | .pwd => pwd args
  | .read => readCommand args
  | .readonly => declare called false args
  | .return_ => returnFrom args
  | .set => setCommand args
  | .shift => shift args
  | .test => test called args
  | .times => times
  | .trap => trap args
  | .true_ => return 0
  | .type => describeAll args
  | .ulimit => ulimit args
  | .umask => umask args
  | .unalias => unalias args
  | .unset => unset args
  | .wait => wait args

/-- Carries a command out by the name it is called by, and writes what it printed. An error ends
no more than the command unless that is a special one. -/
def runBuiltin (e : Engine) (m : Mode) (b : Builtin) (called : Text) (args : List Text)
    (special : Bool) : Act Unit := do
  let outer := (← get).command
  modify fun s => { s with command := some called }
  let result ← attempt do
    let status ← perform e m called args b
    flush
    let failed := (← get).outputFailed
    if failed then complain (called ++ ": I/O error")
    modify fun s => { s with status := if failed then status ||| 1 else status }
  modify fun s => { s with command := outer, outputFailed := false }
  match result with
  | .ok _ => return
  | .error .error => if special then jump .error
  | .error j => jump j

end Act

end ProviderHost.Shell
