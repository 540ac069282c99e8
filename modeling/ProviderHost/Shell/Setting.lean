import ProviderHost.Shell.Argument

/-!
# Setting options

The options of a shell are set by letters behind a dash and unset by letters behind a plus sign,
both when the shell is started and by a command of its own.
-/

namespace ProviderHost.Shell

/-- What the options in front of arguments asked for besides. -/
structure SettingResult where
  rest : List Text
  script : Bool := false
  /-- Whether it is the shell of somebody who has just come. -/
  login : Bool := false
  clears : Bool := false

namespace Act

/-- Makes the shell do without what needs a terminal. -/
def settleSettings : Act Unit := do
  if (← get).has .monitor then
    complain "can't access tty; job control turned off"
    modify fun s => s.setSetting .monitor false

def padRight (width : Nat) (t : Text) : Text :=
  t ++ List.replicate (width - t.length) Byte.space

/-- Lists all options. While the shell is being started, none is off. -/
def listSettings (starting on : Bool) : Act Unit := do
  let s ← get
  if on then print "Current option settings\n"
  for e in Setting.all do
    let isOn := starting || s.has e.1
    if on then print (padRight 16 e.2.2 ++ (if isOn then "on\n" else "off\n"))
    else print ("set " ++ (if isOn then Text.ofString "-o " else "+o ") ++ e.2.2 ++ "\n")

def setByName (starting on : Bool) : Option Text → Act Unit
  | none => listSettings starting on
  | some name => do
    match Setting.ofName? name with
    | some o =>
      modify fun s =>
        if on then { s with settings := o :: s.settings.filter (· ≠ o) } else s.setSetting o false
    | none => fail ("Illegal option -o " ++ name)

/-- Sets options by the letters of an argument. `starting` says that the shell is being started,
when some more letters are known. -/
def setByLetters (starting on : Bool) (r : SettingResult) : Text → Act SettingResult
  | [] => return r
  | c :: letters => do
    if starting ∧ c = 99 then setByLetters starting on { r with script := true } letters
    else if starting ∧ c = 108 then setByLetters starting on { r with login := true } letters
    else if c = 111 then
      setByName starting on r.rest.head?
      setByLetters starting on { r with rest := r.rest.tail } letters
    else
      match Setting.ofLetter? c with
      | some o =>
        modify fun s => s.setSetting o on
        setByLetters starting on r letters
      | none => fail ("Illegal option " ++ (if on then Text.ofString "-" else "+") ++ [c])

def setOptions (starting : Bool) : Nat → SettingResult → Act SettingResult
  | 0, r => return r
  | n + 1, r => do
    match r.rest with
    | (45 :: letters) :: rest =>
      let r := { r with rest := rest }
      if letters = [] ∨ letters = [45] then
        if starting then return r
        if letters = [] then
          modify fun s => (s.setSetting .trace false).setSetting .verbose false
          return r
        return { r with clears := rest.isEmpty }
      setOptions starting n (← setByLetters starting true r letters)
    | (43 :: letters) :: rest =>
      setOptions starting n (← setByLetters starting false { r with rest := rest } letters)
    | _ => return r

def setParameters (args : List Text) : Act Unit :=
  modify fun s => { s with parameters := args, options := {} }

end Act

end ProviderHost.Shell
