import ProviderHost.Shell.Engine
import ProviderHost.Text.Decimal

/-!
# Jobs

The processes that a shell starts, alone or in pipelines, and how it waits for them. While it
waits for a command it puts off an interrupt.
-/

namespace ProviderHost.Shell

/-- Why a shell makes a copy of itself. -/
inductive Purpose where
  | foreground
  | background
  | substitution
  deriving DecidableEq, Repr

namespace Job

def isDone (j : Job) : Bool := ! j.processes.isEmpty && j.processes.all (·.2.isSome)

def status (j : Job) : Nat :=
  match j.processes.getLast? with
  | some (_, some status) => status.code
  | _ => 0

def ending : ExitStatus → Text
  | .exited 0 => "Done"
  | .exited code => "Done(" ++ Text.ofNat code ++ ")"
  | .signalled n => SignalNumber.description n

end Job

namespace Act

/-! ### Signals that were caught -/

/-- What a shell does about a signal that has no trap. An interactive one ignores what would end
it, and breaks off what it does when it is interrupted. -/
def untrapped (s : State) (n : Nat) : Disposition :=
  if s.has .interactive ∧ s.depth = 0 then
    if n = SignalNumber.interrupt then .caught
    else if n = 3 ∨ n = SignalNumber.terminate then .ignored
    else .standard
  else .standard

def yieldToInterrupt : Act Unit := do
  if untrapped (← get) SignalNumber.interrupt = .caught then
    modify fun s => { s with status := 130 }
    say "\n"
    jump .error
  let _ ← call (.handle SignalNumber.interrupt .standard)
  let (self, _) ← call .identity
  let _ ← call (.signal self SignalNumber.interrupt)

def notice : Act Unit := do
  for n in ← call .caught do
    let s ← get
    if n = SignalNumber.interrupt ∧ ¬ s.traps.any (·.1 = n) then
      if ¬ s.guarded then yieldToInterrupt
      else modify fun s => { s with interrupted := true }
    else
      modify fun s =>
        { s with
          pending := if s.pending.contains n then s.pending else n :: s.pending
          latest := some n }

def uninterrupted {α : Type} (m : Act α) : Act α := do
  let s ← get
  if s.guarded ∨ ¬ s.putsOff ∨ s.traps.any (·.1 = SignalNumber.interrupt) ∨
      untrapped s SignalNumber.interrupt = .caught then m
  else
    let _ ← call (.handle SignalNumber.interrupt .caught)
    modify fun s => { s with guarded := true, interrupted := false }
    let result ← attempt m
    notice
    let interrupted := (← get).interrupted
    modify fun s => { s with guarded := false, interrupted := false }
    let _ ← call (.handle SignalNumber.interrupt .standard)
    if interrupted then yieldToInterrupt
    match result with
    | .ok a => return a
    | .error j => jump j

/-! ### Starting processes -/

/-- The number of a new job: the least that no job has of which the script could still learn. -/
def freeNumber (jobs : List Job) : Nat :=
  let taken (n : Nat) : Bool := jobs.any fun j => j.number = n ∧ ¬ (j.isDone ∧ j.waited)
  ((List.range (jobs.length + 1)).map (· + 1)).find? (! taken ·) |>.getD 1

/-- Makes a job, which becomes the current one; answers its number. -/
def makeJob : Act Nat := do
  let s ← get
  let n := freeNumber s.jobs
  set { s with jobs := { number := n } :: s.jobs.filter (·.number ≠ n) }
  return n

def dropJob (n : Nat) : Act Unit :=
  modify fun s => { s with jobs := s.jobs.filter (·.number ≠ n) }

def addProcess (n pid : Nat) : Act Unit := modify fun s =>
  { s with
    jobs := s.jobs.map fun j =>
      if j.number = n then { j with processes := j.processes ++ [(pid, none)] } else j }

def ignoreForGood (n : Nat) : Act Unit := do
  let _ ← call (.handle n .ignored)
  modify fun s => { s with hardIgnored := n :: s.hardIgnored }

/-- What a copy of a shell forgets: traps with an action, and jobs. -/
def forget (purpose : Purpose) (first : Bool) : Act Unit := do
  let s ← get
  for (n, action) in s.traps do
    if action ≠ [] ∧ n ≠ 0 then let _ ← call (.handle n .standard)
  let lost := s.traps.any fun t => t.1 = SignalNumber.interrupt ∧ t.2 ≠ []
  if s.guarded then let _ ← call (.handle SignalNumber.interrupt .standard)
  for n in [SignalNumber.interrupt, 3, SignalNumber.terminate] do
    if untrapped s n ≠ .standard ∧ ¬ s.traps.any (·.1 = n) then
      let _ ← call (.handle n .standard)
  modify fun s =>
    { s with
      depth := s.depth + 1
      traps := s.traps.filter (·.2.isEmpty)
      putsOff := s.putsOff && ! lost
      guarded := false
      interrupted := false
      pending := []
      latest := none
      jobs := []
      moved := []
      readLine := s.outermostLine
      printed := []
      printedSize := 0 }
  if purpose = .background then
    ignoreForGood SignalNumber.interrupt
    ignoreForGood 3
    if first then
      let _ ← call (.close 0)
      match ← call (.openFile "/dev/null" { reads := true }) with
      | .ok _ => return
      | .error cause => fail ("cannot open /dev/null: " ++ cause.message)

/-- Makes a copy of the shell, which does something and ends; answers the number of its
process. -/
def forkShell (e : Engine) (job : Option Nat) (purpose : Purpose) (body : Act Unit) : Act Nat := do
  let first := (← get).jobs.any fun j => some j.number = job ∧ j.processes.isEmpty
  match ← call .fork with
  | .child =>
    let broken ← attempt do
      forget purpose first
      body
    e.leave (match broken with
      | .ok _ => none
      | .error j => some j)
    stop 0
  | .parent pid =>
    match job with
    | some n => addProcess n pid
    | none => pure ()
    if purpose = .background then
      modify fun s =>
        { s with
          backgroundPid := pid
          jobs :=
            s.jobs.filter (fun j => some j.number = job) ++
              s.jobs.filter fun j => some j.number ≠ job }
    return pid

/-! ### Waiting -/

/-- Takes notice of the end of a process; answers the job it belonged to. -/
def noticeEnd (pid : Nat) (status : ExitStatus) : Act (Option Nat) := do
  let s ← get
  let owner := s.jobs.find? fun j => j.processes.any fun p => p.1 = pid ∧ p.2.isNone
  modify fun s =>
    { s with
      jobs := s.jobs.map fun j =>
        if some j.number = owner.map (·.number) then
          { j with
            processes := j.processes.map fun p => if p.1 = pid then (pid, some status) else p }
        else j }
  return owner.map (·.number)

def report : ExitStatus → Act Unit
  | .exited _ => return
  | .signalled n =>
    if n = SignalNumber.interrupt ∨ n = SignalNumber.brokenPipe then return
    else say (SignalNumber.description n ++ "\n")

def reap (awaited : Option Nat) : Act Unit :=
  iterate (σ := Unit) (fun _ => do
    match ← call (.wait .none) with
    | .ended pid status =>
      let owner ← noticeEnd pid status
      if owner.isSome ∧ owner = awaited then report status
      return .inl ()
    | _ => return .inr ()) limit ()

def job? (s : State) (n : Nat) : Option Job := s.jobs.find? (·.number = n)

/-- Waits for a job to end, and forgets it; answers its status. -/
def waitForJob (n : Nat) : Act Nat := do
  iterate (σ := Unit) (fun _ => do
    match job? (← get) n with
    | none => return .inr ()
    | some j =>
      if j.isDone then return .inr ()
      match ← call (.wait .patient) with
      | .ended pid status =>
        let owner ← noticeEnd pid status
        if owner = some n then report status
        return .inl ()
      | _ => return .inr ()) limit ()
  reap (some n)
  match job? (← get) n with
  | none => return 0
  | some j =>
    dropJob n
    return j.status

def reapIdle : Act Unit := do
  if (← get).jobs.any (! ·.isDone) then reap none

end Act

end ProviderHost.Shell
