import ProviderHost.Shell.Expansion

/-!
# Carrying out scripts

A script is read command by command, and each command is carried out before the next one is read.
A script in a file is read in blocks, so that what follows a block may still change meanwhile. An
interactive shell asks for every line with a prompt.
-/

namespace ProviderHost.Shell

/-- A script that is being carried out. -/
structure Script where
  reader : Reader
  source : Option Nat := none
  /-- How much of what is left to read was shown already. -/
  shown : Nat := 0
  status : Nat := 0
  outermost : Bool := false
  prompted : Bool := false
  ends : Nat := 0

namespace Act

def prompt (e : Engine) (t : Text) : Act Text := do
  let reader : Reader := { rest := t }
  let unmarked : Mark := ⟨[Byte.newline], false⟩
  let parse : Read Scan :=
    scanWord (readSubstitution Read.limit) (readBackquotes Read.limit) (some unmarked) .double
  let expanded ← attempt do
    match parse reader with
    | .ok s r =>
      modify fun s => { s with documents := r.documents ++ s.documents }
      Expansion.single e { quoted := true } s.parts
    | .error (.fault _ message) _ => fail message
    | .error .more _ => return t
  match expanded with
  | .ok text => return text
  | .error .error => return t
  | .error j => jump j

def ask (e : Engine) (name : Text) : Act Unit := do
  say (← prompt e (((← get).value? name).getD []))

end Act

namespace Script

def ofText (t : Text) : Script := { reader := { rest := t } }

def ofSource (fd : Nat) : Script := { reader := { rest := [], closed := false }, source := some fd }

def blockSize : Nat := 8192

def echo (script : Script) (read : Text) : Act Unit := do
  if script.source.isSome ∧ (← get).has .verbose then Act.say (read.drop script.shown)

/-- Reads another block. Zero bytes are left out. -/
def readMore (script : Script) : Act Script := do
  script.echo script.reader.rest
  let script := { script with shown := script.reader.rest.length }
  match script.source with
  | none => return { script with reader := { script.reader with closed := true } }
  | some fd =>
    match ← Act.call (.read fd blockSize) with
    | .error .interrupted =>
      if (← get).has .interactive then Act.notice
      return script
    | .error _ | .ok [] => return { script with reader := { script.reader with closed := true } }
    | .ok block =>
      return { script with
        reader := { script.reader with rest := script.reader.rest ++ block.filter (· != 0) } }

def maxEnds : Nat := 50

/-- The end of a script has been met; answers whether it is over. -/
def meetEnd (script : Script) : Act Bool := do
  let s ← get
  if ¬ script.outermost ∨ maxEnds ≤ script.ends then return true
  if s.has .ignoreEnd then
    Act.say "\nUse \"exit\" to leave shell.\n"
    return false
  if s.has .interactive then Act.say "\n"
  return true

/-- How often somebody who types a command has to be asked for more of it: once for each of its
lines but the first. -/
def questions (before after : Reader) : Nat :=
  after.line - before.line - (if after.last = .newline then 1 else 0)

/-- Reads and carries out the next command. The result is on the right when the script is over. -/
def step (e : Engine) (m : Mode) (script : Script) : Act (Script ⊕ Nat) := do
  let asks := script.outermost && (← get).has .interactive
  if asks ∧ ¬ script.prompted then Act.ask e "PS1"
  let script := { script with prompted := asks }
  let s ← get
  let reader :=
    { script.reader with
      aliases := s.aliases, documents := s.documents, nextDocument := s.nextDocument }
  let note (r : Reader) : Act Unit := do
    script.echo (reader.rest.take (reader.rest.length - r.rest.length))
    modify fun s =>
      { s with
        readLine := r.line
        outermostLine := if script.outermost then r.line else s.outermostLine }
    if asks then
      for _ in List.range (questions reader r) do
        Act.ask e "PS2"
  match (readCommands reader : EStateM.Result Stop Reader (Option Command)) with
  | .error .more _ =>
    Act.flush
    return .inl (← script.readMore)
  | .error (.fault line message) r =>
    note r
    modify fun s => { s with errorLine := line }
    Act.fail message
  | .ok c r =>
    note r
    let shown := script.shown - (reader.rest.length - r.rest.length)
    let script := { script with reader := r, shown := shown, prompted := false }
    match c with
    | none =>
      if ← script.meetEnd then return .inr script.status
      return .inl { script with ends := script.ends + 1 }
    | some c =>
      modify fun s => { s with documents := r.documents, nextDocument := r.nextDocument }
      let ended := r.pushed && r.last == .endOfFile
      let status ← e.run c { m with final := m.final && ended }
      let empty :=
        match c with
        | .nothing => true
        | _ => false
      let script := { script with status := if empty then script.status else status, ends := 0 }
      if (← get).skip ≠ .none then return .inr script.status
      return .inl script

def carryOut (e : Engine) (m : Mode) (script : Script) : Act Nat := do
  let line := (← get).readLine
  let result ← Act.attempt (Act.iterate (step e m) Act.limit script)
  modify fun s => { s with readLine := line }
  match result with
  | .ok status => return status
  | .error j => Act.jump j

/-- Carries out a script that functions and loops around it know nothing of, so that a return
ends just the script. -/
def carryOutApart (e : Engine) (script : Script) : Act Nat := do
  let status ← carryOut e {} script
  modify fun s =>
    match s.skip with
    | .return_ _ => { s with skip := .none }
    | _ => s
  return status

end Script

end ProviderHost.Shell
