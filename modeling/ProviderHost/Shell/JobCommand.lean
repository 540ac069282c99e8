import ProviderHost.Shell.Argument
import ProviderHost.Shell.Trap

/-!
# Commands for jobs

Listing jobs, waiting for them, and sending signals. A job is named by a percent sign and its
number, or by its place: the current one or the one before.
-/

namespace ProviderHost.Shell

namespace Act

/-! ### Naming jobs -/

def findJob (s : State) (name : Text) : Except Text Job :=
  let missing : Except Text Job := .error ("No such job: " ++ name)
  let current : Except Text Job := s.jobs.head?.elim (.error (Text.ofString "No current job")) .ok
  let numbered (t : Text) : Option (Except Text Job) :=
    match Text.toNat? t with
    | some n =>
      if 0 < n ∧ s.jobs.any (n ≤ ·.number) then
        some ((s.jobs.find? (·.number = n)).elim missing .ok)
      else none
    | none => none
  match name with
  | [37] | [37, 43] | [37, 37] => current
  | [37, 45] => s.jobs[1]?.elim (.error (Text.ofString "No previous job")) .ok
  | [37, 63] =>
    match s.jobs with
    | [j] => .ok j
    | [] => missing
    | _ => .error (name ++ ": ambiguous")
  | 37 :: t => (numbered t).getD missing
  | _ => missing

def namedJob (name : Text) : Act Job := do
  match findJob (← get) name with
  | .ok j => return j
  | .error message => fail message

/-! ### Listing -/

inductive JobListing where
  | plain
  | long
  | leader
  deriving DecidableEq, Repr

def commandColumn : Nat := 33

def jobLines (s : State) (how : JobListing) (j : Job) : Text :=
  let pid (p : Nat × Option ExitStatus) : Text := Text.ofNat p.1
  let rank : UInt8 :=
    if s.jobs.head?.map (·.number) = some j.number then 43
    else if s.jobs[1]?.map (·.number) = some j.number then 45
    else Byte.space
  let state : Text :=
    match j.isDone, j.processes.getLast? with
    | true, some (_, some status) => Job.ending status
    | _, _ => "Running"
  let pad (t : Text) : Text :=
    t ++ List.replicate (max 1 (commandColumn - t.length)) Byte.space
  let start := "[" ++ Text.ofNat j.number ++ "] " ++ [rank, Byte.space]
  match how with
  | .leader => (j.processes.head?.map pid).getD [] ++ "\n"
  | .plain =>
    pad (start ++ state) ++ (j.processes.tail.flatMap fun _ => Text.ofString " | ") ++ "\n"
  | .long =>
    let first := pad (start ++ (j.processes.head?.map pid).getD [] ++ " " ++ state)
    let others := j.processes.tail.map fun p =>
      pad (List.replicate start.length Byte.space ++ pid p)
    first ++ others.flatten ++ "\n"

def showJob (how : JobListing) (n : Nat) : Act Unit := do
  let s ← get
  match s.jobs.find? (·.number = n) with
  | none => return
  | some j =>
    print (jobLines s how j)
    if j.isDone ∧ how ≠ .leader then dropJob n

def jobs (args : List Text) : Act Nat := do
  let (given, names) ← options "lp" args
  let how : JobListing :=
    match given.getLast? with
    | none => .plain
    | some g => if g.letter = 108 then .long else .leader
  if names = [] then
    reapIdle
    for j in (← get).jobs do
      showJob how j.number
  else
    for name in names do
      showJob how (← namedJob name).number
  return 0

/-- Would bring a job to the foreground or let it go on in the background. -/
def continueJob (args : List Text) : Act Nat := do
  let names ← operands args
  match names.head? with
  | none =>
    if (← get).jobs = [] then fail "No current job"
    fail "job (null) not created under job control"
  | some name =>
    let _ ← namedJob name
    fail ("job " ++ name ++ " not created under job control")

/-! ### Waiting -/

/-- Waits for one more child to end; answers whether there was none, or the signal that came
first. -/
def awaitChild (job : Option Nat) : Act (Option Nat × Bool) :=
  iterate (σ := Unit) (fun _ => do
    match ← call (.wait .alert) with
    | .ended pid status =>
      let owner ← noticeEnd pid status
      if owner.isSome ∧ owner = job then report status
      return .inr (none, false)
    | .interrupted _ =>
      notice
      match (← get).latest with
      | some n => return .inr (some n, false)
      | none => return .inl ()
    | _ => return .inr (none, true)) limit ()

/-- Waits until a job is done; answers the signal that came first if one did. -/
def awaitJob (n : Nat) : Act (Option Nat) := do
  let interrupted ← iterate (σ := Unit) (fun _ => do
    match job? (← get) n with
    | none => return .inr none
    | some j =>
      if j.isDone then return .inr none
      match ← awaitChild (some n) with
      | (some signal, _) => return .inr (some signal)
      | (none, true) => return .inr none
      | (none, false) => return .inl ()) limit ()
  if interrupted.isNone then reap (some n)
  return interrupted

/-- Waits until all jobs are done; answers the signal that came first if one did. -/
def awaitAll : Act (Option Nat) :=
  iterate (σ := Unit) (fun _ => do
    if (← get).jobs.all (·.isDone) then
      modify fun s => { s with jobs := s.jobs.map fun j => { j with waited := true } }
      return .inr none
    match ← awaitChild none with
    | (some signal, _) => return .inr (some signal)
    | (none, true) => return .inr none
    | (none, false) => return .inl ()) limit ()

def awaitNamed (status : Nat) : List Text → Act Nat
  | [] => return status
  | name :: rest => do
    let job : Option Job ← do
      if name.head? = some 37 then pure (some (← namedJob name))
      else
        let pid ← number name
        let last (j : Job) : Option Nat := j.processes.getLast?.map (·.1)
        pure ((← get).jobs.find? fun j => last j = some pid)
    match job with
    | none => awaitNamed status rest
    | some j =>
      match ← awaitJob j.number with
      | some signal => return 128 + signal
      | none =>
        modify fun s =>
          { s with
            jobs := s.jobs.map fun k =>
              if k.number = j.number then { k with waited := true } else k }
        awaitNamed (((job? (← get) j.number).map (·.status)).getD 0) rest

def wait (args : List Text) : Act Nat := do
  match ← operands args with
  | [] => return ((← awaitAll).map (128 + ·)).getD 0
  | names => awaitNamed 127 names

/-! ### Signals -/

/-- The most that an exit status says besides a signal. -/
def signalBase : Nat := 128

def killUsage {α : Type} : Act α :=
  fail ("Usage: kill [-s sigspec | -signum | -sigspec] [pid | job]... or\n" ++
    Text.ofString "kill -l [exitstatus]")

/-- What the options of `kill` ask for: the signal, whether to list, and the targets. -/
def killOptions (args : List Text) : Act (Option Nat × Bool × List Text) := do
  match args with
  | (45 :: name) :: rest =>
    match signalNumber? 1 name with
    | some n => return (some n, false, rest)
    | none =>
      let o := Argument.options "ls:" args
      let mut signal : Option Nat := none
      let mut lists := false
      for g in o.given do
        if g.letter = 108 then lists := true
        else
          match signalNumber? 1 g.argument with
          | some n => signal := some n
          | none => fail ("invalid signal number or name: " ++ g.argument)
      match o.rest with
      | .ok rest => return (signal, lists, rest)
      | .error message => fail message
  | args => return (none, false, args)

def listSignals : List Text → Act Nat
  | [] => do
    print "0\n"
    for n in (List.range SignalNumber.bound).tail do
      print (SignalNumber.name n ++ "\n")
    return 0
  | t :: _ => do
    let n ← number t
    let n := if signalBase < n then n - signalBase else n
    if 0 < n ∧ n < SignalNumber.bound then
      print (SignalNumber.name n ++ "\n")
      return 0
    else fail ("invalid signal number or exit status: " ++ t)

def killTarget (t : Text) : Act Int := do
  match t with
  | 37 :: _ => return -(((← namedJob t).processes.head?.map (·.1)).getD 0 : Nat)
  | 45 :: group => return -(← number group : Nat)
  | t => return (← number t : Nat)

def kill (args : List Text) : Act Nat := do
  if args = [] then killUsage
  let (signal, lists, targets) ← killOptions args
  if lists then
    if signal.isSome ∧ targets ≠ [] then killUsage
    listSignals targets
  else
    if targets = [] then killUsage
    let mut status := 0
    for t in targets do
      match ← call (.signal (← killTarget t) (signal.getD SignalNumber.terminate)) with
      | .ok _ => pure ()
      | .error cause =>
        complain (cause.message ++ "\n")
        status := 1
    return status

end Act

end ProviderHost.Shell
