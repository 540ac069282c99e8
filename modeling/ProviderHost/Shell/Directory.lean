import ProviderHost.Shell.Lookup

/-!
# The working directory

A shell keeps the path by which it came to its working directory, with the links in it and
without dots; only on request does it look where it really is.
-/

namespace ProviderHost.Shell

namespace DirectoryPath

def ofPlace (place : Place) : Text :=
  if place = [] then "/" else place.flatMap fun name => Byte.slash :: name

/-- The names of a path with the dots taken away, from names in reverse on. -/
def steps : List Text → List Text → List Text
  | back, [] => back.reverse
  | back, name :: rest =>
    if name = [] ∨ name = "." then steps back rest
    else if name = ".." then steps back.tail rest
    else steps (name :: back) rest

/-- The slashes at the start of a path: two are kept, any other number of them is one. -/
def lead : Text → Text
  | 47 :: 47 :: 47 :: _ => "/"
  | 47 :: 47 :: _ => "//"
  | _ => "/"

def along (here path : Text) : Text :=
  if path.head? = some Byte.slash then
    lead path ++ Text.join "/" (steps [] (Text.fields Byte.slash path))
  else
    let names := Text.fields Byte.slash here ++ Text.fields Byte.slash path
    lead here ++ Text.join "/" (steps [] names)

/-- Whether a path is not looked for in other directories: it is absolute or starts with dots. -/
def isFixed (path : Text) : Bool :=
  let ends : Text → Bool
    | [] => true
    | b :: _ => b == Byte.slash
  match path with
  | 47 :: _ => true
  | 46 :: 46 :: rest => ends rest
  | 46 :: rest => ends rest
  | _ => false

end DirectoryPath

namespace Act

def realDirectory : Act Text := return DirectoryPath.ofPlace (← call .workingDirectory)

/-- Whether the options ask for real directories instead of paths as they were given. -/
def asksReal (given : List Argument.Given) : Bool :=
  given.getLast?.any fun g => g.letter == 80

def noteDirectory (path : Text) (old : Option Text) : Act Unit := do
  match old with
  | some old => setVariable "OLDPWD" (some old) true false
  | none => pure ()
  modify fun s => { s with directory := some path }
  setVariable "PWD" (some path) true false

/-- Changes the working directory; answers whether that went well. -/
def changeDirectory (real : Bool) (path : Text) : Act Bool := do
  let old := ((← get).directory).getD []
  let shown : Option Text :=
    if real then none
    else if path.head? = some Byte.slash ∨ old ≠ [] then some (DirectoryPath.along old path)
    else none
  match ← call (.changeDirectory (shown.getD path)) with
  | .error _ => return false
  | .ok _ =>
    let path ← match shown with
      | some path => pure path
      | none => realDirectory
    noteDirectory path (some old)
    modify fun s => { s with found := s.found.map fun f => { f with stale := true } }
    return true

/-- Looks for a directory at paths; answers the path and whether it is that of the start. -/
def findDirectory : List (Text × Bool) → Act (Option (Text × Bool))
  | [] => return none
  | (path, plain) :: rest => do
    match ← call (.stat path) with
    | .ok facts => if facts.kind = .directory then return some (path, plain)
    | .error _ => pure ()
    findDirectory rest

def cd (args : List Text) : Act Nat := do
  let (given, rest) ← options "LP" args
  let real := asksReal given
  let s ← get
  let wanted : Text := rest.head?.getD ((s.value? "HOME").getD [])
  let back := wanted = "-"
  let wanted : Text := if back then (s.value? "OLDPWD").getD [] else wanted
  let target : Text × Bool ← do
    if DirectoryPath.isFixed wanted then pure (wanted, true)
    else
      let wanted : Text := if wanted = [] then "." else wanted
      match s.value? "CDPATH" with
      | none => pure (wanted, true)
      | some path =>
        let candidates := (Text.fields Byte.colon path).zip (SearchList.candidates path wanted)
        let found ← findDirectory (candidates.map fun e => (e.2, e.1.isEmpty))
        pure (found.getD (wanted, true))
  if ¬ (← changeDirectory real target.1) then fail ("can't cd to " ++ wanted)
  if back ∨ ¬ target.2 then print (((← get).directory).getD [] ++ "\n")
  return 0

def pwd (args : List Text) : Act Nat := do
  let (given, _) ← options "LP" args
  let path ← if asksReal given then realDirectory else pure (((← get).directory).getD [])
  print (path ++ "\n")
  return 0

end Act

end ProviderHost.Shell
