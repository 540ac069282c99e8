import ProviderHost.Environment
import ProviderHost.SearchPath
import ProviderHost.Settings

/-!
# Finding what to launch

The command of a definition is looked up on the search path. When it is not there, the first
fallback for it may name another command, whose arguments are changed.
-/

namespace ProviderHost

/-- The file that will be run and its arguments. -/
structure Launch where
  executable : Text
  args : List Text
  /-- Says which command was replaced by which; empty when none was. -/
  note : Text := []
  deriving DecidableEq, Repr

inductive LaunchFault where
  | noCommand
  | notFound (command : Text)
  | noPipes (reason : Text)
  | noProcess (reason : Text)
  | notExecuted (executable reason : Text)
  deriving DecidableEq, Repr

def LaunchFault.fault : LaunchFault → Fault
  | .noCommand =>
    { category := .configuration
      message := "Provider has no command to launch"
      code := "missing_command" }
  | .notFound command =>
    { category := .launch
      message := "Executable not found on PATH: " ++ command
      code := "executable_not_found"
      hint := "Install '" ++ command ++ "' or give an absolute command path." }
  | .noPipes reason =>
    { category := .launch
      message := "Failed to create process pipes: " ++ reason
      code := "pipe_creation_failed" }
  | .noProcess reason =>
    { category := .launch
      message := "Failed to fork process: " ++ reason
      code := "fork_failed" }
  | .notExecuted executable reason =>
    { category := .launch
      message := "Failed to execute " ++ executable ++ ": " ++ reason
      code := "exec_failed" }

namespace Launch

def adaptArgs (change : ArgumentChange) (args : List Text) : List Text :=
  match change, args with
  | .replaceLeadingRun, first :: rest =>
    if first = "run" then Text.ofString "-y" :: rest else Text.ofString "-y" :: first :: rest
  | _, args => Text.ofString "-y" :: args

def commandLine (command : Text) (args : List Text) : Text :=
  Text.join [Byte.space] (command :: args)

def ofFallback (f : Fallback) (executable : Text) (args : List Text) : Launch :=
  let args := adaptArgs f.change args
  { executable := executable
    args := args
    note := "'" ++ f.primary ++ "' not found on PATH, running '" ++
      commandLine f.replacement args ++ "' instead" }

/-- Finds what to run for a command and its arguments; `find?` is the search for executables. -/
def resolve (find? : Text → Option Text) (fallbacks : List Fallback) (command : Text)
    (args : List Text) : Except LaunchFault Launch :=
  if command = [] then .error .noCommand
  else
    match find? command with
    | some executable => .ok { executable := executable, args := args }
    | none =>
      match fallbacks.find? fun f => f.primary = command with
      | none => .error (.notFound command)
      | some f =>
        match find? f.replacement with
        | none => .error (.notFound command)
        | some executable => .ok (ofFallback f executable args)

def report (result : Except LaunchFault Launch) (j : Journal) : Journal :=
  match result with
  | .ok launch => if launch.note = [] then j else j.warn launch.note
  | .error _ => j

end Launch

end ProviderHost
