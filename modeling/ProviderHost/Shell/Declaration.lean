import ProviderHost.Shell.Lookup

/-!
# Declarations

Commands that make variables exported, read-only or local, that unset them, and that name or list
variables, aliases and the programs that were found.
-/

namespace ProviderHost.Shell

namespace Act

def listVariables (before : Text) (wanted : Variable → Bool) : Act Nat := do
  for v in (← get).variables_ do
    if wanted v then
      let value : Text :=
        match v.value with
        | some value => Byte.equals :: quote value
        | none => []
      print (before ++ v.name ++ value ++ "\n")
  return 0

def splitAssignment (t : Text) : Text × Option Text := Text.cut Byte.equals t

/-- Makes variables exported or read-only, or lists those that are. -/
def declare (called : Text) (exports : Bool) (args : List Text) : Act Nat := do
  let o := Argument.options "p" args
  let marked (v : Variable) : Bool := if exports then v.exported else v.readOnly
  let list : Act Nat := listVariables (called ++ " ") marked
  match o.given, o.rest with
  | _ :: _, _ => list
  | [], .error message => fail message
  | [], .ok [] => list
  | [], .ok names =>
    for arg in names do
      let (name, value) := splitAssignment arg
      match value, (← get).named? name with
      | none, some v =>
        modify fun s => s.putVariable
          { v with exported := v.exported || exports, readOnly := v.readOnly || ! exports }
      | value, _ => setVariable name value exports (! exports)
    return 0

def declareLocal (args : List Text) : Act Nat := do
  if (← get).locals = [] then fail "not in a function"
  for arg in args do
    let (name, value) := splitAssignment arg
    makeLocal name value false
  return 0

def unset (args : List Text) : Act Nat := do
  let (given, names) ← options "vf" args
  for name in names do
    if given.getLast?.any (·.letter == 102) then
      modify fun s => { s with functions := s.functions.filter fun f => f.name ≠ name }
    else unsetVariable name
  return 0

/-! ### Aliases -/

def aliasBuckets : Nat := 39

def aliasLine (a : Text × Text) : Text := a.1 ++ "=" ++ quote a.2 ++ "\n"

def setAlias (name value : Text) (aliases : List (Text × Text)) : List (Text × Text) :=
  if aliases.any fun a => a.1 = name then
    aliases.map fun a => if a.1 = name then (name, value) else a
  else aliases ++ [(name, value)]

/-- Sets or lists aliases. An equals sign at the start of an argument is part of a name. -/
def alias_ (args : List Text) : Act Nat := do
  if args = [] then
    for a in SearchList.inBuckets aliasBuckets (·.1) (← get).aliases do
      print (aliasLine a)
    return 0
  let mut status := 0
  for arg in args do
    let (name, value) := Text.cut Byte.equals arg.tail
    let name := arg.take 1 ++ name
    match value with
    | some value => modify fun s => { s with aliases := setAlias name value s.aliases }
    | none =>
      match (← get).aliases.find? fun a => a.1 = arg with
      | some a => print (aliasLine a)
      | none =>
        say ("alias: " ++ arg ++ " not found\n")
        status := 1
  return status

def unalias (args : List Text) : Act Nat := do
  let o := Argument.options "a" args
  match o.given, o.rest with
  | _ :: _, _ =>
    modify fun s => { s with aliases := [] }
    return 0
  | [], .error message => fail message
  | [], .ok names =>
    let mut status := 0
    for name in names do
      if (← get).aliases.any fun a => a.1 = name then
        modify fun s => { s with aliases := s.aliases.filter fun a => a.1 ≠ name }
      else
        say ("unalias: " ++ name ++ " not found\n")
        status := 1
    return status

/-! ### Programs that were found -/

def commandBuckets : Nat := 31

def hash (args : List Text) : Act Nat := do
  let o := Argument.options "r" args
  match o.given, o.rest with
  | _ :: _, _ =>
    modify fun s => { s with found := [] }
    return 0
  | [], .error message => fail message
  | [], .ok [] =>
    let path ← searchPath
    for f in SearchList.inBuckets commandBuckets (·.name) (← get).found do
      print (pathAt f.name path f.index ++ (if f.stale then Text.ofString "*" else []) ++ "\n")
    return 0
  | [], .ok names =>
    let mut status := 0
    for name in names do
      modify fun s => { s with found := s.found.filter fun f => f.name ≠ name }
      match ← lookUp name none true with
      | .unknown cause =>
        complain (name ++ ": " ++ runFault cause)
        status := 1
      | _ => pure ()
    return status

end Act

end ProviderHost.Shell
