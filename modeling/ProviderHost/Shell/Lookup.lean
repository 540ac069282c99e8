import ProviderHost.Shell.Variable

/-!
# What commands are called

The name of a command stands for a function, for a command of the shell's own, or for a program.
A name with a slash is the path of a program; any other one is looked for in the directories of
the search path, and the shell remembers where it was.
-/

namespace ProviderHost.Shell

inductive Builtin where
  | alias_ | bg | break_ | cd | command | continue_ | dot | echo | eval | exec | exit | export_
  | false_ | fg | getopts | hash | jobs | kill | local_ | printf | pwd | read | readonly | return_
  | set | shift | test | times | trap | true_ | type | ulimit | umask | unalias | unset | wait
  deriving DecidableEq, Repr

namespace Builtin

def names : List (Text × Builtin) :=
  [(".", dot), (":", true_), ("[", test), ("alias", alias_), ("bg", bg), ("break", break_),
    ("cd", cd), ("chdir", cd), ("command", command), ("continue", continue_), ("echo", echo),
    ("eval", eval), ("exec", exec), ("exit", exit), ("export", export_), ("false", false_),
    ("fg", fg), ("getopts", getopts), ("hash", hash), ("jobs", jobs), ("kill", kill),
    ("local", local_), ("printf", printf), ("pwd", pwd), ("read", read), ("readonly", readonly),
    ("return", return_), ("set", set), ("shift", shift), ("test", test), ("times", times),
    ("trap", trap), ("true", true_), ("type", type), ("ulimit", ulimit), ("umask", umask),
    ("unalias", unalias), ("unset", unset), ("wait", wait)].map
    fun (e : String × Builtin) => (Text.ofString e.1, e.2)

def ofName? (name : Text) : Option Builtin := (names.find? fun e => e.1 = name).map (·.2)

/-- Whether a word that assigns is no field to be split when it is an argument. -/
def assigns : Builtin → Bool
  | alias_ | export_ | local_ | readonly => true
  | _ => false

end Builtin

inductive Meaning where
  | function (f : Function)
  | builtin (b : Builtin)
  /-- A program in the directory of the search path with this index, or at the path itself. -/
  | program (index : Option Nat)
  | unknown (cause : SystemFault)

namespace SearchList

def standard : Text := "/usr/local/sbin:/usr/local/bin:/usr/sbin:/usr/bin:/sbin:/bin"

def candidates (path name : Text) : List Text :=
  (Text.fields Byte.colon path).map fun d => if d = [] then name else d ++ Byte.slash :: name

/-- The bucket of a name in a table of `size` buckets; lists of names follow their order. -/
def bucket (size : Nat) (name : Text) : Nat :=
  (name.foldl (fun n b => n + b.toNat) ((name.headD 0).toNat * 16)) % 32768 % size

def inBuckets {α : Type} (size : Nat) (name : α → Text) (entries : List α) : List α :=
  entries.mergeSort fun a b => bucket size (name a) ≤ bucket size (name b)

end SearchList

def runFault : SystemFault → Text
  | .missing | .notDirectory => "not found"
  | cause => cause.message

namespace Act

def searchPath : Act Text := do
  return ((← get).value? "PATH").getD []

/-- Looks for a program at paths, the first of which has a given index. -/
def searchFrom (stale : Option Nat) (fault : SystemFault) : Nat → List Text → Act Meaning
  | _, [] => return .unknown fault
  | n, path :: rest => do
    if path.head? = some Byte.slash ∧ stale.any (n ≤ ·) then
      if stale = some n then return .program (some n)
      searchFrom stale fault (n + 1) rest
    else
      match ← call (.stat path) with
      | .ok facts =>
        if facts.kind = .regular then return .program (some n)
        searchFrom stale .denied (n + 1) rest
      | .error .missing | .error .notDirectory => searchFrom stale fault (n + 1) rest
      | .error cause => searchFrom stale cause (n + 1) rest

def search (name : Text) : Act Meaning := do
  match (← get).found.find? fun f => f.name = name with
  | some ⟨_, index, false⟩ => return .program (some index)
  | old =>
    let result ← searchFrom (old.map (·.index)) .missing 0
      (SearchList.candidates (← searchPath) name)
    modify fun s =>
      let others := s.found.filter fun f => f.name ≠ name
      match result with
      | .program (some index) =>
        if old.isSome then
          { s with found := s.found.map fun f => if f.name = name then ⟨name, index, false⟩ else f }
        else { s with found := s.found ++ [⟨name, index, false⟩] }
      | _ => { s with found := others }
    return result

/-- What a name stands for; `path` is another search path to use, on which no function is found,
and `functions` says whether functions are. -/
def lookUp (name : Text) (path : Option Text) (functions : Bool) : Act Meaning := do
  if name.contains Byte.slash then return .program none
  let s ← get
  match s.functions.find? fun f => f.name = name with
  | some f => if functions ∧ path.isNone then return .function f
  | none => pure ()
  match Builtin.ofName? name with
  | some b => return .builtin b
  | none =>
    match path with
    | none => search name
    | some path => searchFrom none .missing 0 (SearchList.candidates path name)

def pathAt (name : Text) (path : Text) (index : Nat) : Text :=
  ((SearchList.candidates path name)[index]?).getD name

/-! ### Describing commands -/

/-- Prints what a name stands for. Briefly, that is what one may write to run it. -/
def describe (name : Text) (path : Option Text) (verbose : Bool) : Act Nat := do
  let tell (long brief : Text) : Act Nat := do
    if verbose then print (name ++ long ++ "\n") else print (brief ++ "\n")
    return 0
  if (Token.ofReserved? name).isSome then tell " is a shell keyword" name
  else
    let s ← get
    match s.aliases.find? fun a => a.1 = name with
    | some (_, value) =>
      tell (" is an alias for " ++ value) ("alias " ++ name ++ "=" ++ quote value)
    | none =>
      let known := s.found.any fun f => f.name = name
      let there ← do
        if name.contains Byte.slash then
          match ← call (.stat name) with
          | .ok _ => pure true
          | .error _ => pure false
        else pure true
      match ← if there then lookUp name path true else pure (.unknown .missing) with
      | .function _ => tell " is a shell function" name
      | .builtin _ =>
        tell (if specialCommands.contains name then " is a special shell builtin"
          else " is a shell builtin") name
      | .program none => tell (" is " ++ name) name
      | .program (some index) =>
        let at_ := pathAt name (path.getD (← searchPath)) index
        tell ((if known ∧ path.isNone then " is a tracked alias for " else " is ") ++ at_) at_
      | .unknown _ =>
        if verbose then print (name ++ ": not found\n")
        return 127

end Act

end ProviderHost.Shell
