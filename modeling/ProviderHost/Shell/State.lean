import ProviderHost.Shell.Grammar
import ProviderHost.System.Call
import ProviderHost.System.Signal

/-!
# The state of a shell

What a shell remembers between two commands, and `Act`: what it does, which may change the state,
make system calls, and break off. What comes after is passed along, so that a program of calls is
all that remains of an action.
-/

namespace ProviderHost.Shell

inductive Setting where
  | exitOnError | noPathnames | ignoreEnd | interactive | monitor | noExecution | input | trace
  | verbose | vi | emacs | noClobber | exportAll | notify | unsetIsError | privileged | noLog
  | debugging
  deriving DecidableEq, Repr

namespace Setting

def all : List (Setting × Option UInt8 × Text) :=
  [(.exitOnError, "e", "errexit"), (.noPathnames, "f", "noglob"), (.ignoreEnd, "I", "ignoreeof"),
    (.interactive, "i", "interactive"), (.monitor, "m", "monitor"), (.noExecution, "n", "noexec"),
    (.input, "s", "stdin"), (.trace, "x", "xtrace"), (.verbose, "v", "verbose"), (.vi, "V", "vi"),
    (.emacs, "E", "emacs"), (.noClobber, "C", "noclobber"), (.exportAll, "a", "allexport"),
    (.notify, "b", "notify"), (.unsetIsError, "u", "nounset"), (.privileged, "p", "privileged"),
    (.noLog, "", "nolog"), (.debugging, "", "debug")].map
    fun (e : Setting × String × String) => (e.1, (Text.ofString e.2.1).head?, Text.ofString e.2.2)

def ofLetter? (b : UInt8) : Option Setting :=
  (all.find? fun e => e.2.1 = some b).map (·.1)

def ofName? (t : Text) : Option Setting := (all.find? fun e => e.2.2 = t).map (·.1)

end Setting

/-- A variable. One without a value may still be exported or be read-only. -/
structure Variable where
  name : Text
  value : Option Text
  exported : Bool := false
  readOnly : Bool := false
  deriving DecidableEq, Repr

/-- What is put back when a function ends. -/
inductive Saved where
  | variable (name : Text) (old : Option Variable)
  | settings (old : List Setting)

/-- What is left out on the way to the end of a loop, a function or a script. -/
inductive Skip where
  | none
  | break_
  | continue_
  /-- To the end of the function, with a status of its own or with that of the last command. -/
  | return_ (own : Bool)
  deriving DecidableEq, Repr

/-- Why a shell breaks off what it does. -/
inductive Jump where
  | error
  /-- The last command is over, or ran in place of the shell in vain. -/
  | finished
  | exit
  deriving DecidableEq, Repr

structure Job where
  number : Nat
  processes : List (Nat × Option ExitStatus) := []
  waited : Bool := false
  deriving DecidableEq, Repr

structure Function where
  name : Text
  body : Command

structure Found where
  name : Text
  index : Nat
  stale : Bool := false
  deriving DecidableEq, Repr

/-- Where the reading of options stands. -/
structure OptionReader where
  /-- Which argument is next; none if it is to start anew. -/
  index : Nat := 1
  /-- How far the letters of an argument have been read. -/
  offset : Option Nat := none
  deriving DecidableEq, Repr

structure State where
  name : Text
  errorLine : Nat := 0
  /-- The command that is being carried out by the shell itself. -/
  command : Option Text := none
  /-- The number of the shell that was started first, and that of its parent. -/
  pid : Nat := 0
  parent : Nat := 0
  depth : Nat := 0
  status : Nat := 0
  /-- The status that counts when a trap asks for the end. -/
  savedStatus : Option Nat := none
  substituted : Nat := 0
  backgroundPid : Nat := 0
  skip : Skip := .none
  skipCount : Nat := 0
  loops : Nat := 0
  calls : Nat := 0
  settings : List Setting := []
  /-- In increasing order of their names. -/
  variables_ : List Variable := []
  locals : List (List Saved) := []
  parameters : List Text := []
  options : OptionReader := {}
  functions : List Function := []
  aliases : List (Text × Text) := []
  documents : List (Nat × Document) := []
  nextDocument : Nat := 0
  /-- The actions of traps; an empty one ignores the signal. -/
  traps : List (Nat × Text) := []
  /-- Whether an interrupt that has no trap is put off while the shell waits for a command; whether
  it does so now; and whether one has arrived. -/
  putsOff : Bool := true
  guarded : Bool := false
  interrupted : Bool := false
  /-- The signals that were ignored already when the shell started. -/
  hardIgnored : List Nat := []
  armed : List Nat := []
  /-- The signals that arrived and whose traps are yet to be run. -/
  pending : List Nat := []
  /-- The signal that arrived last, until traps have been run. -/
  latest : Option Nat := none
  jobs : List Job := []
  /-- What was printed and not yet written, in reverse, and how many bytes that is. -/
  printed : List Text := []
  printedSize : Nat := 0
  outputFailed : Bool := false
  /-- Where the working directory is; none if that is not known. -/
  directory : Option Text := none
  /-- The commands that were found on the search path, in the order in which they were. -/
  found : List Found := []
  /-- Where each descriptor was moved to, or that it was closed, for the redirections in force, the
  innermost first. -/
  moved : List (List (Nat × Option Nat)) := []
  /-- The line up to which the script has been read, and that of the script that the shell was
  started with where it comes from a descriptor. -/
  readLine : Nat := 1
  outermostLine : Nat := 1
  tracing : Bool := false

/-- What a shell does: it goes on with a value or breaks off. -/
def Act (α : Type) : Type :=
  State → (α → State → Program) → (Jump → State → Program) → Program

namespace Act

@[inline] def pure_ {α : Type} (a : α) : Act α := fun s next _ => next a s

@[inline] def bind_ {α β : Type} (m : Act α) (f : α → Act β) : Act β := fun s next jump =>
  m s (fun a s => f a s next jump) jump

instance : Monad Act where
  pure := pure_
  bind := bind_

instance : MonadStateOf State Act where
  get := fun s next _ => next s s
  set s := fun _ next _ => next () s
  modifyGet f := fun s next _ =>
    match f s with
    | (a, s) => next a s

def call (c : Call) : Act c.Reply := fun s next _ => .call c fun r => next r s

def jump {α : Type} (j : Jump) : Act α := fun s _ jump => jump j s

def attempt {α : Type} (m : Act α) : Act (Except Jump α) := fun s next _ =>
  m s (fun a s => next (.ok a) s) (fun j s => next (.error j) s)

def stop {α : Type} (code : Nat) : Act α := fun _ _ _ => .exit code

def become {α : Type} (p : Program) : Act α := fun _ _ _ => p

def iterate {σ β : Type} (step : σ → Act (σ ⊕ β)) : Nat → σ → Act β
  | 0, _ => stop 2
  | n + 1, a => fun s next jump =>
    step a s
      (fun r s =>
        match r with
        | .inl a => iterate step n a s next jump
        | .inr b => next b s)
      jump

def limit : Nat := 1000000000000

/-! ### Output -/

def bufferSize : Nat := 8192

def write (fd : Nat) (t : Text) : Act Bool := do
  if t.isEmpty then return true
  match ← call (.write fd t) with
  | .ok _ => return true
  | .error _ => return false

def flush : Act Unit := do
  let s ← get
  if s.printedSize = 0 then return
  set { s with printed := [], printedSize := 0 }
  if ¬ (← write 1 s.printed.reverse.flatten) then
    modify fun s => { s with outputFailed := true }

def print (t : Text) : Act Unit := do
  let size := t.length
  if bufferSize < (← get).printedSize + size then
    flush
    if bufferSize ≤ size then
      if ¬ (← write 1 t) then modify fun s => { s with outputFailed := true }
      return
  modify fun s => { s with printed := t :: s.printed, printedSize := s.printedSize + size }

def say (t : Text) : Act Unit := do
  let _ ← write 2 t

def messageStart (s : State) : Text :=
  let start := s.name ++ ": " ++ Text.ofNat s.errorLine ++ ": "
  match s.command with
  | some c => start ++ c ++ ": "
  | none => start

def complain (message : Text) : Act Unit := do
  say (messageStart (← get) ++ message ++ "\n")

def failWith {α : Type} (j : Jump) (message : Text) : Act α := do
  complain message
  flush
  jump j

def fail {α : Type} (message : Text) : Act α := do
  modify fun s => { s with status := 2 }
  failWith .error message

/-- Makes a pipe; answers the descriptors of the end that is read and of the one that is
written. -/
def makePipe : Act (Nat × Nat) := do
  match ← call .pipe with
  | .ok ends => return ends
  | .error _ => fail "Pipe call failed"

end Act

namespace State

def has (s : State) (o : Setting) : Bool := s.settings.contains o

def setSetting (s : State) (o : Setting) (on : Bool) : State :=
  let others := s.settings.filter (· ≠ o)
  if on then
    let others := if o = .vi then others.filter (· ≠ .emacs)
      else if o = .emacs then others.filter (· ≠ .vi)
      else others
    { s with settings := o :: others }
  else { s with settings := others }

end State

end ProviderHost.Shell
