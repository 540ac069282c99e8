import ProviderHost.Shell.Job
import ProviderHost.Shell.Lookup

/-!
# Running programs

How a shell goes on as another program: it tries the paths at which the program may be, and a file
that is no program but may be run is taken for a script of its own.
-/

namespace ProviderHost.Shell

namespace Execution

/-- The shell that runs scripts without a header. -/
def interpreter : Text := "/bin/sh"

def failure : SystemFault → Nat
  | .tooManyLinks | .nameTooLong | .missing | .notDirectory => 127
  | _ => 126

/-- Goes on as the program at a path; answers why that is in vain. -/
def tryPath (path : Text) (args environment : List Text) : Act SystemFault := do
  match ← Act.call (.execute path args environment) with
  | .badFormat => Act.call (.execute interpreter (interpreter :: path :: args.tail) environment)
  | cause => return cause

def tryPaths (args environment : List Text) (cause : SystemFault) :
    List Text → Act SystemFault
  | [] => return cause
  | path :: rest => do
    match ← tryPath path args environment with
    | .missing | .notDirectory => tryPaths args environment cause rest
    | cause => tryPaths args environment cause rest

end Execution

namespace Act

/-- Goes on as the program that arguments name; `index` is that of the first directory of the
search path to look in. -/
def execute {α : Type} (args : List Text) (path : Text) (index : Nat) : Act α := do
  let name := args.headD []
  let environment := (← get).environment
  let cause ←
    if name.contains Byte.slash then Execution.tryPath name args environment
    else
      Execution.tryPaths args environment .missing
        ((SearchList.candidates path name).drop index)
  modify fun s => { s with status := Execution.failure cause }
  failWith .finished (name ++ ": " ++ runFault cause)

end Act

end ProviderHost.Shell
