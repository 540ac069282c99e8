import ProviderHost.Shell.Argument

/-!
# Variables

Looking variables up, setting and unsetting them, and making them local to a function or to a
single command. A read-only variable can be neither set nor unset.
-/

namespace ProviderHost.Shell

def textBefore : Text → Text → Bool
  | _, [] => false
  | [], _ :: _ => true
  | a :: s, b :: t => a < b || (a == b && textBefore s t)

def quote (t : Text) : Text := go (t.length + 1) t
where
  go : Nat → Text → Text
    | 0, _ => []
    | n + 1, t =>
      let front := t.takeWhile (· != 39)
      let rest := t.drop front.length
      let quotes := rest.takeWhile (· == 39)
      let after := rest.drop quotes.length
      let out : Text := 39 :: (front ++ [39])
      if quotes = [] then out
      else
        let out := out ++ 34 :: (quotes ++ [34])
        if after = [] then out else out ++ go n after

namespace State

def named? (s : State) (name : Text) : Option Variable :=
  s.variables_.find? fun v => v.name = name

def value? (s : State) (name : Text) : Option Text := (s.named? name).bind (·.value)

def insertVariable (v : Variable) : List Variable → List Variable
  | [] => [v]
  | w :: rest =>
    if v.name = w.name then v :: rest
    else if textBefore v.name w.name then v :: w :: rest
    else w :: insertVariable v rest

def optionIndex : Text := "OPTIND"

def changed (s : State) (name : Text) (value : Text) : State :=
  if name = "PATH" then { s with found := [] }
  else if name = optionIndex then
    { s with options := { index := max 1 (Numeral.read 10 value).value.toNat, offset := none } }
  else s

def putVariable (s : State) (v : Variable) : State :=
  { s with variables_ := insertVariable v s.variables_ }

def dropVariable (s : State) (name : Text) : State :=
  { s with variables_ := s.variables_.filter fun v => v.name ≠ name }

def lasting : List Text :=
  ["IFS", "MAIL", "MAILPATH", "OPTIND", "PATH", "PS1", "PS2", "PS4"].map Text.ofString

/-- Whether a variable stays when it is unset: every shell has it, or it is local. -/
def stays (s : State) (name : Text) : Bool :=
  lasting.contains name ||
    s.locals.any fun frame => frame.any fun
      | .variable n _ => n = name
      | .settings _ => false

def environment (s : State) : List Text :=
  s.variables_.filterMap fun v =>
    match v.value with
    | some value => if v.exported then some (v.name ++ "=" ++ value) else none
    | none => none

/-- Whether fields are split at other bytes than blanks, and at which. -/
def separators (s : State) : Text := (s.value? "IFS").getD [32, 9, 10]

end State

namespace Act

/-- Sets a variable without a look at its name. It may be left without a value. -/
def setUnchecked (name : Text) (value : Option Text) (exported readOnly : Bool) : Act Unit := do
  let s ← get
  let exported := exported || s.has .exportAll
  let old := s.named? name
  if old.any (·.readOnly) then fail (name ++ ": is read only")
  if name = State.optionIndex then let _ ← number (value.getD [])
  set ((s.changed name (value.getD [])).putVariable
    { name := name, value := value, exported := exported || old.any (·.exported)
      readOnly := readOnly })

def checkedName (name : Text) : Act Text := do
  let name := (Text.cut Byte.equals name).1
  if Word.isName name then return name else fail (name ++ ": bad variable name")

def setVariable (name : Text) (value : Option Text) (exported readOnly : Bool) : Act Unit := do
  setUnchecked (← checkedName name) value exported readOnly

def assign (name value : Text) : Act Unit := setVariable name (some value) false false

/-- Unsets a variable. One that stays, or is made while all are exported, has no value then. -/
def unsetVariable (name : Text) : Act Unit := do
  let name ← checkedName name
  let s ← get
  if s.stays name ∨ s.has .exportAll then setUnchecked name none false false
  else
    if (s.named? name).any (·.readOnly) then fail (name ++ ": is read only")
    set ((s.changed name []).dropVariable name)

/-- Remembers a variable, and what to put back when the innermost function or command ends. -/
def remember (saved : Saved) : Act Unit := modify fun s =>
  match s.locals with
  | frame :: frames => { s with locals := (saved :: frame) :: frames }
  | [] => s

def makeLocal (name : Text) (value : Option Text) (exported : Bool) : Act Unit := do
  let s ← get
  if name = "-" ∧ value.isNone then remember (.settings s.settings)
  else
    match s.named? name with
    | none =>
      if value.isSome then setUnchecked name value exported false
      else setVariable name none exported false
      remember (.variable name none)
    | some v =>
      if value.isSome then setUnchecked name value exported false
      remember (.variable name (some v))

/-- Puts back what the innermost function or command has made local. -/
def leaveLocals : Act Unit := do
  match (← get).locals with
  | [] => return
  | frame :: frames =>
    modify fun s => { s with locals := frames }
    for saved in frame do
      match saved with
      | .settings old => modify fun s => { s with settings := old }
      | .variable name (some old) =>
        modify fun s => (s.changed name (old.value.getD [])).putVariable old
      | .variable name none =>
        let name ← checkedName name
        modify fun s => (s.changed name []).dropVariable name

end Act

end ProviderHost.Shell
