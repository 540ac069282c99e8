import ProviderHost.Shell.Builtin
import ProviderHost.Shell.Redirect

/-!
# Carrying out commands

What each kind of command does. A command whose status nobody looks at ends the script when it
fails, if that option is set; the last command of a shell need not come back to it.
-/

namespace ProviderHost.Shell

namespace Act

/-! ### Traces -/

/-- The descriptor for traces: what standard error was before the innermost redirections. -/
def traceDescriptor (s : State) : Nat :=
  match s.moved with
  | frame :: _ =>
    match frame.find? fun m => m.1 = 2 with
    | some (_, some copy) => copy
    | _ => 2
  | [] => 2

def trace (e : Engine) (words : List Text) : Act Unit := do
  let s ← get
  if s.has .trace ∧ ¬ s.tracing then
    modify fun s => { s with tracing := true }
    let start ← prompt e ((s.value? "PS4").getD [])
    modify fun s => { s with tracing := false }
    let _ ← write (traceDescriptor (← get)) (start ++ Text.join " " words ++ "\n")

/-! ### Functions -/

def maxCalls : Nat := 1000

def callFunction (e : Engine) (m : Mode) (f : Function) (args : List Text) : Act Unit := do
  let s ← get
  if maxCalls ≤ s.calls then
    fail ("Maximum function recursion depth (" ++ Text.ofNat maxCalls ++ ") reached")
  set { s with parameters := args, options := {}, loops := 0, calls := s.calls + 1 }
  let result ← attempt (e.run f.body { tested := m.tested })
  modify fun t =>
    { t with
      parameters := s.parameters, options := s.options, loops := s.loops, calls := s.calls
      skip :=
        match t.skip with
        | .return_ _ => .none
        | skip => skip }
  match result with
  | .ok _ => return
  | .error j => jump j

/-! ### Simple commands -/

/-- The start of a simple command, as far as it had to be expanded to know what it is. -/
structure Front where
  all : List Text
  args : List Text
  rest : List Word
  /-- The search path, if it is another one than usual. -/
  path : Option Text := none
  functions : Bool := true
  meaning : Option Meaning := none
  /-- Whether the first command that was found is a special one. -/
  special : Bool := false
  apart : Bool := false

namespace Front

def fill (e : Engine) (f : Front) : List Word → Act Front
  | [] => return { f with rest := [] }
  | w :: rest => do
    let more ← Expansion.fields e w
    let f := { f with all := f.all ++ more, args := f.args ++ more, rest := rest }
    if more = [] then fill e f rest else return f

def asksStandard (letters : Text) : Bool := letters.all (· == 112)

/-- Takes `command` and its options off the front; none if it is to describe a command, or there
is nothing behind it. What was expanded on the way stays. -/
def unwrap (e : Engine) : Nat → Front → Act (Front × Option Front)
  | 0, f => return (f, none)
  | n + 1, f => do
    let filled ← if 2 ≤ f.args.length then pure f else f.fill e f.rest
    match filled.args with
    | head :: (45 :: c :: letters) :: rest =>
      if c = 45 ∧ letters = [] then
        let filled ← if rest ≠ [] then pure filled else filled.fill e filled.rest
        match filled.args.drop 2 with
        | [] => return (filled, none)
        | args => return (filled, some { filled with args := args })
      else if asksStandard (c :: letters) then
        let path := some SearchList.standard
        let (inner, found) ← unwrap e n { filled with args := head :: rest, path := path }
        let whole := { inner with args := head :: (45 :: c :: letters) :: inner.args.tail }
        return (whole, found)
      else return (filled, none)
    | _ :: arg :: args => return (filled, some { filled with args := arg :: args })
    | _ => return (filled, none)

def identify (e : Engine) (first : Bool) : Nat → Front → Act Front
  | 0, f => return f
  | n + 1, f => do
    let name := f.args.headD []
    let function := (← get).functions.find? fun g => g.name = name
    let builtin := (Builtin.ofName? name).map Meaning.builtin
    let own : Option Meaning :=
      match function with
      | some g => if f.functions then some (.function g) else builtin
      | none => builtin
    let f := { f with meaning := own, apart := true }
    match own with
    | some (.builtin b) =>
      let special := specialCommands.contains name
      let f := if first then { f with special := special, apart := ! special } else f
      if b ≠ .command then return f
      let (whole, inner) ← unwrap e (f.args.length + f.rest.length + 1) f
      match inner with
      | none => return whole
      | some inner => identify e false n { inner with functions := false }
    | _ => return f

end Front

def expandRest (e : Engine) (assigns : Bool) (words : List Word) : Act (List Text) := do
  let fields ← words.mapM fun w =>
    if assigns ∧ (Word.assigned? w).isSome then
      return [← Expansion.single e { assigns := true } w]
    else Expansion.fields e w
  return fields.flatten

def assignAll (e : Engine) (apart exported : Bool) (words : List Word) : Act (List Text) :=
  words.mapM fun w => do
    let text ← Expansion.single e { assigns := true } w
    let (name, value) := Text.cut Byte.equals text
    if apart then makeLocal name value true
    else setUnchecked name value exported false
    return text

def runProgram (e : Engine) (m : Mode) (args : List Text) (path : Text) (index : Nat) :
    Act Nat := do
  if m.final ∧ ¬ hasTraps (← get) then execute args path index
  else
    uninterrupted do
      let job ← makeJob
      let _ ← forkShell e (some job) .foreground (execute args path index)
      waitForJob job

def carryOut (e : Engine) (m : Mode) (f : Front) (args : List Text) : Act Nat := do
  let name := args.headD []
  let program (index : Option Nat) : Act Nat := do
    let path ← match f.path with
      | some path => pure path
      | none => searchPath
    runProgram e m args path (index.getD 0)
  let afterwards : Act Nat := do
    reapIdle
    return (← get).status
  match f.meaning with
  | some (.builtin b) =>
    runBuiltin e m b name args.tail f.special
    afterwards
  | some (.function g) =>
    callFunction e m g args.tail
    afterwards
  | _ =>
    match ← lookUp name f.path f.functions with
    | .program index => program index
    | .unknown cause =>
      complain (name ++ ": " ++ runFault cause)
      modify fun s => { s with status := 127 }
      return 127
    | .builtin b =>
      runBuiltin e m b name args.tail f.special
      afterwards
    | .function g =>
      callFunction e m g args.tail
      afterwards

/-- Takes back what was made local since `depth` sets of it were left. -/
def unwindLocals (depth : Nat) : Act Unit := do
  let count := (← get).locals.length - depth
  for _ in List.range count do
    leaveLocals

def simple (e : Engine) (m : Mode) (line : Nat) (assignments words : List Word)
    (redirections : List Redirection) : Act Nat := do
  modify fun s => { s with errorLine := line, substituted := 0 }
  let f ← Front.fill e { all := [], args := [], rest := words } words
  let f ← if f.args = [] then pure f else Front.identify e true (words.length + 1) f
  let assigns :=
    match f.meaning with
    | some (.builtin b) => b.assigns
    | _ => false
  let more ← expandRest e assigns f.rest
  let args := f.args ++ more
  let runs : Bool :=
    match f.meaning with
    | some (.builtin .exec) => true
    | _ => false
  let localsDepth := (← get).locals.length
  if f.apart then modify fun s => { s with locals := [] :: s.locals }
  let ready ← expandRedirections e redirections
  let movedDepth := (← get).moved.length
  pushMoved
  if ← redirectSafely e ready then
    let assigned ← assignAll e f.apart (runs && decide (1 < args.length)) assignments
    trace e (assigned ++ f.all ++ more)
    if args = [] then
      let status := (← get).substituted
      modify fun s => { s with status := status }
    else
      let status ← carryOut e m f args
      modify fun s => { s with status := status }
  else
    modify fun s => { s with status := 2 }
    if f.special then jump .error
  unwindMoved (movedDepth + 1)
  popMoved runs
  unwindLocals localsDepth
  notice
  return (← get).status

/-! ### Compound commands -/

inductive LoopEnd where
  | goesOn
  | goesOnAnew
  | stops
  deriving DecidableEq, Repr

def loopEnd : Act LoopEnd := do
  let s ← get
  match s.skip with
  | .none => return .goesOn
  | .return_ _ => return .stops
  | .break_ =>
    if s.skipCount ≤ 1 then set { s with skip := .none, skipCount := s.skipCount - 1 }
    else set { s with skipCount := s.skipCount - 1 }
    return .stops
  | .continue_ =>
    if s.skipCount ≤ 1 then
      set { s with skip := .none, skipCount := s.skipCount - 1 }
      return .goesOnAnew
    else
      set { s with skipCount := s.skipCount - 1 }
      return .stops

def enterLoop : Act Unit := modify fun s => { s with loops := s.loops + 1 }
def leaveLoop : Act Unit := modify fun s => { s with loops := s.loops - 1 }

def loop (e : Engine) (m : Mode) (expected : Bool) (condition body : Command) : Act Nat := do
  enterLoop
  let status ← iterate (fun (status : Nat) => do
    notice
    let i ← e.run condition { tested := true }
    let returns := (← get).skip = .return_ true
    match ← loopEnd with
    | .stops => return .inr (if returns then i else status)
    | .goesOnAnew => return .inl status
    | .goesOn =>
      if (i == 0) ≠ expected then return .inr status
      let status ← e.run body { tested := m.tested }
      match ← loopEnd with
      | .stops => return .inr status
      | _ => return .inl status) limit 0
  leaveLoop
  return status

def rounds (e : Engine) (m : Mode) (name : Text) (body : Command) (status : Nat) :
    List Text → Act Nat
  | [] => return status
  | value :: rest => do
    assign name value
    let status ← e.run body { tested := m.tested }
    match ← loopEnd with
    | .stops => return status
    | _ => rounds e m name body status rest

def each (e : Engine) (m : Mode) (line : Nat) (name : Text) (words : List Word)
    (body : Command) : Act Nat := do
  modify fun s => { s with errorLine := line }
  let values ← words.mapM (Expansion.fields e)
  enterLoop
  let status ← rounds e m name body 0 values.flatten
  leaveLoop
  return status

def fitsAny (e : Engine) (t : Text) : List Word → Act Bool
  | [] => return false
  | w :: rest => do
    let cells := (← e.expand { tilde := true } w).flatMap (·.cells)
    if Pattern.fits (Pattern.ofText (Field.pattern cells)) t then return true
    else fitsAny e t rest

def choose (e : Engine) (m : Mode) (t : Text) : List (List Word × Command) → Act Nat
  | [] => return 0
  | (patterns, body) :: rest => do
    if (← get).skip ≠ .none then return 0
    if ← fitsAny e t patterns then
      match body with
      | .nothing => return 0
      | body => if (← get).skip ≠ .none then return 0 else e.run body m
    else choose e m t rest

def subshell (e : Engine) (m : Mode) (background : Bool) (body : Command)
    (redirections : List Redirection) : Act Nat := do
  let ready ← expandRedirections e redirections
  let inner (m : Mode) : Act Unit := do
    redirect e false ready
    let _ ← e.run body { m with final := true }
  if ¬ background ∧ m.final ∧ ¬ hasTraps (← get) then
    inner m
    return 0
  else
    uninterrupted do
      let job ← makeJob
      let _ ← forkShell e (some job) (if background then .background else .foreground)
        (inner (if background then {} else m))
      if background then return 0 else waitForJob job

def lookAhead : Command → Act Unit
  | .simple _ _ (w :: _) _ => do
    match Word.literal? w with
    | some name => if Word.isName name then let _ ← lookUp name none true
    | none => return
  | _ => return

def startStages (e : Engine) (m : Mode) (job : Nat) (purpose : Purpose) (input : Option Nat) :
    List Command → Act Unit
  | [] => return
  | c :: rest => do
    lookAhead c
    let ends : Option (Nat × Nat) ← if rest.isEmpty then pure none else some <$> makePipe
    let _ ← forkShell e (some job) purpose do
      match ends with
      | some (reader, _) => let _ ← call (.close reader)
      | none => pure ()
      match input with
      | some fd =>
        if 0 < fd then
          let _ ← call (.duplicateTo fd 0)
          let _ ← call (.close fd)
      | none => pure ()
      match ends with
      | some (_, writer) =>
        if 1 < writer then
          let _ ← call (.duplicateTo writer 1)
          let _ ← call (.close writer)
      | none => pure ()
      let _ ← e.run c { m with final := true }
    match input with
    | some fd => let _ ← call (.close fd)
    | none => pure ()
    match ends with
    | some (_, writer) => let _ ← call (.close writer)
    | none => pure ()
    startStages e m job purpose (ends.map (·.1)) rest

def pipeline (e : Engine) (m : Mode) (background : Bool) (stages : List Command) : Act Nat :=
  uninterrupted do
    let job ← makeJob
    startStages e m job (if background then .background else .foreground) none stages
    if background then return 0 else waitForJob job

def define (name : Text) (body : Command) : Act Nat := do
  modify fun s =>
    { s with functions := ⟨name, body⟩ :: s.functions.filter fun f => f.name ≠ name }
  return 0

/-- What comes of a command: its status, and whether a failure counts. -/
structure Outcome where
  status : Nat
  sets : Bool := true
  /-- Whether the shell ends if the command failed, when that option is set. -/
  counts : Bool := false

def redirected (e : Engine) (m : Mode) (line : Nat) (body : Command)
    (redirections : List Redirection) : Act Outcome := do
  modify fun s => { s with errorLine := line }
  let ready ← expandRedirections e redirections
  pushMoved
  let went ← redirectSafely e ready
  let status ← if went then e.run body { tested := m.tested } else pure 2
  popMoved false
  return { status := status, counts := ! went }

def outcome (e : Engine) (m : Mode) : Command → Act Outcome
  | .nothing => return { status := 0, sets := false }
  | .simple line assignments words redirections => do
    return { status := ← simple e m line assignments words redirections, counts := true }
  | .pipeline background stages => do
    return { status := ← pipeline e m background stages, counts := true }
  | .negation body => do
    let status ← e.run body { tested := true }
    if (← get).skip ≠ .none then return { status := status }
    return { status := if status = 0 then 1 else 0 }
  | .conjunction a b => do
    let status ← e.run a { tested := true }
    if status ≠ 0 ∨ (← get).skip ≠ .none then return { status := status, sets := false }
    return { status := ← e.run b m }
  | .disjunction a b => do
    let status ← e.run a { tested := true }
    if status = 0 ∨ (← get).skip ≠ .none then return { status := status, sets := false }
    return { status := ← e.run b m }
  | .sequence a b => do
    let status ← e.run a { tested := m.tested }
    if (← get).skip ≠ .none then return { status := status, sets := false }
    return { status := ← e.run b m }
  | .redirected line body redirections => redirected e m line body redirections
  | .background body redirections => do
    return { status := ← subshell e m true body redirections, counts := true }
  | .subshell line body redirections => do
    modify fun s => { s with errorLine := line }
    return { status := ← subshell e m false body redirections, counts := true }
  | .choice condition yes no => do
    let status ← e.run condition { tested := true }
    if (← get).skip ≠ .none then return { status := status, sets := false }
    if status = 0 then return { status := ← e.run yes m }
    match no with
    | .nothing => return { status := 0 }
    | no => return { status := ← e.run no m }
  | .loop expected condition body => do
    return { status := ← loop e m expected condition body }
  | .each line name words body => do
    return { status := ← each e m line name words body }
  | .cases line subject clauses => do
    modify fun s => { s with errorLine := line }
    let t ← Expansion.single e { tilde := true } subject
    return { status := ← choose e m t clauses }
  | .function name body => do return { status := ← define name body }

/-- Carries out a command, and traps before and after it; answers its status. -/
def run (e : Engine) (c : Command) (m : Mode) : Act Nat := do
  if (← get).has .noExecution then
    runTraps e
    if m.final then jump .finished
    return 0
  runTraps e
  let o ← outcome e m c
  if o.sets then modify fun s => { s with status := o.status }
  runTraps e
  if o.counts ∧ ¬ m.tested ∧ o.status ≠ 0 ∧ (← get).has .exitOnError then jump .finished
  if m.final then jump .finished
  return o.status

/-! ### The end -/

def reset (why : Jump) : Act Unit := do
  modify fun s =>
    { s with
      status :=
        match s.savedStatus with
        | some status => if why = .exit ∨ s.skip = .return_ false then status else s.status
        | none => s.status
      savedStatus := none
      skip := .none
      loops := 0
      tracing := false }
  unwindMoved 0

def leave (e : Engine) (why : Option Jump) : Act Unit := do
  match why with
  | some j => reset j
  | none => pure ()
  modify fun s => { s with savedStatus := some s.status }
  let again ← do
    match trap? (← get) 0 with
    | none => pure Jump.exit
    | some action =>
      modify fun s => { s with traps := s.traps.filter fun t => t.1 ≠ 0, skip := .none }
      match ← attempt (e.evaluate action {}) with
      | .ok _ => pure Jump.exit
      | .error j => pure j
  reset again
  flush
  stop (← get).status

end Act

def depthLimit : Nat := 1000000000000

/-- A shell whose commands are nested no deeper than `n`. -/
def engine : Nat → Engine
  | 0 =>
    { run := fun _ _ => Act.stop 2
      expand := fun _ _ => Act.stop 2
      evaluate := fun _ _ => Act.stop 2
      leave := fun _ => Act.stop 2 }
  | n + 1 =>
    { run := fun c m => Act.run (engine n) c m
      expand := fun m w => Expansion.parts (engine n) m w
      evaluate := fun t m => (Script.ofText t).carryOut (engine n) m
      leave := fun why => Act.leave (engine n) why }

end ProviderHost.Shell
