import ProviderHost.Shell.Start
import ProviderHost.System.Sleep

/-!
# Loading programs

A file is run if it may be: a program that comes with the system, or a script, whose first line
names the interpreter that runs it, perhaps itself a script. The interpreter is given the word
behind its name, the path of the script and the arguments.
-/

namespace ProviderHost

structure ScriptHeader where
  interpreter : Text
  argument : Option Text
  deriving DecidableEq, Repr

namespace ScriptHeader

def sight : Nat := 256

def isGap (b : UInt8) : Bool := b == Byte.space || b == Byte.tab

/-- The header in a line without its mark. A name ends at a gap or a zero byte. -/
def ofLine? (line : Text) (open_ : Bool) : Option ScriptHeader :=
  let line := line.dropWhile isGap
  let ends (b : UInt8) : Bool := isGap b || b == 0
  let argument (rest : Text) : Option Text :=
    match rest with
    | b :: _ =>
      if b = 0 then none
      else
        let a := rest.dropWhile isGap
        if a = [] ∧ ¬ open_ then none else some (a.takeWhile (· != 0))
    | [] => none
  if line = [] then none else some ⟨line.takeWhile (! ends ·), argument (line.dropWhile (! ends ·))⟩

/-- The header of a file, if it starts with one. A line that goes on beyond what is looked at
counts if the name of the interpreter ends within. -/
def ofContent? (content : Text) : Option ScriptHeader :=
  match Text.after? "#!" content with
  | none => none
  | some rest =>
    let rest := rest.take (sight - 2)
    let front := rest.takeWhile fun b => b != Byte.newline && b != 0
    if (rest.drop front.length).head? = some Byte.newline then
      ofLine? (Text.dropEnd isGap front) false
    else
      let padded := rest ++ List.replicate (sight - 2 - rest.length) 0
      let name := padded.dropWhile isGap
      if name.any fun b => isGap b || b == 0 then
        ofLine? (Text.dropEnd isGap (padded.take (sight - 3))) true
      else none

end ScriptHeader

namespace Program

def standard? (name : Text) (args environment : List Text) : Option Program :=
  if name = "sh" then some (Shell.start args environment)
  else if name = "sleep" then some (Sleep.start args)
  else none

def maxArgument : Nat := 131072

def maxArguments : Nat := 2097152

def room (texts : List Text) : Nat := texts.foldl (fun n t => n + t.length + 9) 8

def tooLong (texts : List Text) : Bool :=
  texts.any (fun t => decide (maxArgument ≤ t.length)) || decide (maxArguments < room texts)

def maxScripts : Nat := 5

def loadFile (files : Files) (environment : List Text) :
    Nat → Text → List Text → Except SystemFault Program
  | scripts, path, args => do
    match (← files.stat path).2 with
    | .program name =>
      match standard? name args environment with
      | some program => .ok program
      | none => .error .badFormat
    | .file mode content =>
      if ¬ Files.executableMode mode then .error .denied
      else
        match ScriptHeader.ofContent? content with
        | none => .error .badFormat
        | some header =>
          let args := header.interpreter :: (header.argument.toList ++ path :: args.tail)
          match scripts with
          | 0 =>
            let _ ← files.stat header.interpreter
            .error .tooManyLinks
          | scripts + 1 => loadFile files environment scripts header.interpreter args
    | _ => .error .denied

def load (files : Files) (path : Text) (args environment : List Text) :
    Except SystemFault Program := do
  let program ← loadFile files environment maxScripts path args
  if tooLong (args ++ environment) then .error .tooLong else .ok program

end Program

end ProviderHost
