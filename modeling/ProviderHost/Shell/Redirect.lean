import ProviderHost.Shell.Expansion

/-!
# Redirections

A redirection makes a descriptor stand for something else. What it stood for is kept under a
higher descriptor and put back when the command is over.
-/

namespace ProviderHost.Shell

inductive ReadyRedirection where
  | file (fd : Nat) (use : FileUse) (path : Text)
  | duplicate (fd : Nat) (source : Option Nat)
  | document (fd number : Nat)

namespace ReadyRedirection

def fd : ReadyRedirection → Nat
  | .file fd _ _ | .duplicate fd _ | .document fd _ => fd

end ReadyRedirection

inductive NewSource where
  | opened (fd : Nat)
  | other (fd : Nat)
  | closed
  | unchanged
  deriving DecidableEq, Repr

namespace Act

def openFault (creates : Bool) : SystemFault → Text
  | .missing | .notDirectory => if creates then "Directory nonexistent" else "No such file"
  | cause => cause.message

def openFor (path : Text) (mode : OpenMode) : Act Nat := do
  match ← call (.openFile path mode) with
  | .ok fd => return fd
  | .error cause =>
    let verb : Text := if mode.creates then "create" else "open"
    fail ("cannot " ++ verb ++ " " ++ path ++ ": " ++ openFault mode.creates cause)

def openFresh (path : Text) : Act Nat := do
  let refuse (cause : SystemFault) : Act Nat :=
    fail ("cannot create " ++ path ++ ": " ++ openFault true cause)
  match ← call (.stat path) with
  | .error _ =>
    match ← call (.openFile path { writes := true, creates := true, fresh := true }) with
    | .ok fd => return fd
    | .error cause => refuse cause
  | .ok facts =>
    if facts.kind = .regular then refuse .exists
    else
      match ← call (.openFile path { writes := true }) with
      | .ok fd => return fd
      | .error cause => refuse cause

/-- The most that is written into a pipe before anybody reads from it. -/
def documentRoom : Nat := 4096

def openDocument (e : Engine) (number : Nat) : Act Nat := do
  let document := ((← get).documents.find? fun d => d.1 = number).map (·.2)
  let (reader, writer) ← makePipe
  let text ← do
    match document with
    | none => pure []
    | some d =>
      if d.expands then Expansion.single e { quoted := true } d.text
      else pure (Word.unquoted d.text)
  if text.length ≤ documentRoom then
    let _ ← write writer text
  else
    let _ ← forkShell e none .substitution do
      let _ ← call (.close reader)
      for n in [SignalNumber.interrupt, 3, 1, 20] do
        let _ ← call (.handle n .ignored)
      let _ ← call (.handle SignalNumber.brokenPipe .standard)
      let _ ← write writer text
      stop 0
  let _ ← call (.close writer)
  return reader

def expandRedirections (e : Engine) (rs : List Redirection) : Act (List ReadyRedirection) :=
  rs.mapM fun
    | .file fd use name => do
      return .file fd use (← Expansion.single e { tilde := true } name)
    | .duplicate fd source => return .duplicate fd source
    | .document fd number => return .document fd number
    | .duplicateWord fd source => do
      match ← Expansion.single e { tilde := true } source with
      | [b] =>
        if Byte.isDigit b then return .duplicate fd (some (Text.digitValue b))
        if b = 45 then return .duplicate fd none
        modify fun s => { s with errorLine := s.readLine }
        fail "Syntax error: Bad fd number"
      | _ =>
        modify fun s => { s with errorLine := s.readLine }
        fail "Syntax error: Bad fd number"

def openSource (e : Engine) : ReadyRedirection → Act NewSource
  | .file _ .input path => return .opened (← openFor path { reads := true })
  | .file _ .inputOutput path =>
    return .opened (← openFor path { reads := true, writes := true, creates := true })
  | .file _ .append path =>
    return .opened (← openFor path { writes := true, creates := true, appends := true })
  | .file _ .clobber path =>
    return .opened (← openFor path { writes := true, creates := true, empties := true })
  | .file _ .output path => do
    if (← get).has .noClobber then return .opened (← openFresh path)
    else return .opened (← openFor path { writes := true, creates := true, empties := true })
  | .duplicate fd (some source) => return if source = fd then .unchanged else .other source
  | .duplicate _ none => return .closed
  | .document _ number => return .opened (← openDocument e number)

/-- The least descriptor under which another one is kept. -/
def keepFrom : Nat := 10

/-- Whether a descriptor is kept already for the innermost redirections. -/
def isKept (s : State) (fd : Nat) : Bool :=
  match s.moved with
  | frame :: _ => frame.any (·.1 = fd)
  | [] => false

/-- Keeps a descriptor for the innermost redirections; answers whether it is closed now. -/
def keep (fd : Nat) (source : NewSource) : Act Bool := do
  let note (copy : Option Nat) : Act Unit := modify fun s =>
    match s.moved with
    | frame :: frames => { s with moved := ((fd, copy) :: frame) :: frames }
    | [] => s
  if source = .opened fd then
    note none
    return false
  match ← call (.duplicate fd keepFrom true) with
  | .ok copy =>
    let _ ← call (.close fd)
    note (some copy)
    return true
  | .error .badDescriptor =>
    note none
    return true
  | .error cause =>
    let _ ← call (.close fd)
    fail (Text.ofNat fd ++ ": " ++ cause.message)

def redirectOne (e : Engine) (keeps : Bool) (r : ReadyRedirection) : Act Unit := do
  let fd := r.fd
  let source ← openSource e r
  if source = .unchanged then return
  let closed ← do
    if keeps ∧ ¬ isKept (← get) fd then keep fd source else pure false
  match source with
  | .unchanged => return
  | .closed => if ¬ closed then let _ ← call (.close fd)
  | .other source =>
    match ← call (.duplicateTo source fd) with
    | .ok _ => return
    | .error cause => fail (Text.ofNat source ++ ": " ++ cause.message)
  | .opened source =>
    if source = fd then return
    let result ← call (.duplicateTo source fd)
    let _ ← call (.close source)
    match result with
    | .ok _ => return
    | .error cause => fail (Text.ofNat source ++ ": " ++ cause.message)

def redirect (e : Engine) (keeps : Bool) (rs : List ReadyRedirection) : Act Unit := do
  for r in rs do
    redirectOne e keeps r

/-- Starts a new set of redirections that can be taken back. -/
def pushMoved : Act Unit := modify fun s => { s with moved := [] :: s.moved }

/-- Takes the innermost redirections back, or leaves them in force for good. -/
def popMoved (forGood : Bool) : Act Unit := do
  match (← get).moved with
  | [] => return
  | frame :: frames =>
    modify fun s => { s with moved := frames }
    for (fd, copy) in frame.mergeSort fun a b => a.1 ≤ b.1 do
      match copy with
      | none => if ¬ forGood then let _ ← call (.close fd)
      | some copy =>
        if ¬ forGood then let _ ← call (.duplicateTo copy fd)
        let _ ← call (.close copy)

/-- Takes redirections back until `depth` sets of them are left. -/
def unwindMoved (depth : Nat) : Act Unit := do
  let count := (← get).moved.length - depth
  for _ in List.range count do
    popMoved false

/-- Carries out redirections that can be taken back; answers whether that went well. -/
def redirectSafely (e : Engine) (rs : List ReadyRedirection) : Act Bool := do
  match ← attempt (redirect e true rs) with
  | .ok _ => return true
  | .error .error => return false
  | .error j => jump j

end Act

end ProviderHost.Shell
