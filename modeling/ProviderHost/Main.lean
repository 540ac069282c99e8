import ProviderHost.CommandLine.Session
import ProviderHost.Identifier
import ProviderHost.Store.Roster
import ProviderHost.System
import Std.Time.Format

/-!
# The program

The command line over a system in memory. The arguments, the environment, standard input and
the file of the registry are read once, before the run; what the run prints is written after it.
-/

namespace ProviderHost.Console

def bytes (s : String) : Text := s.toUTF8.toList

/-- The string of a text; bytes that are no UTF-8 become replacement characters. -/
def string (t : Text) : String := String.fromUTF8? ⟨t.toArray⟩ |>.getD (String.ofList
  (t.map fun b => if b < 128 then Char.ofNat b.toNat else '\uFFFD'))

def variableNames : List Text :=
  ["HOME", "PATH", "TOOLHUB_REGISTRY", "TOOLHUB_LOG_LEVEL"].map Text.ofString ++
    Settings.numeric.map (·.variableName)

def environment : IO (List Text) := do
  let entries ← variableNames.mapM fun name => do
    let value ← IO.getEnv (string name)
    return value.map fun value => name ++ "=" ++ bytes value
  return entries.filterMap id

def input (args : List Text) : IO Text := do
  if args.contains "extract" then return (← (← IO.getStdin).readBinToEnd).toList else return []

def drawnIds : IO (List Text) :=
  (List.range 16).mapM fun _ => do
    let digits ← (List.range 8).mapM fun _ => IO.rand 0 15
    return Identifier.provider fun i => Fin.ofNat 16 (digits.getD i 0)

def files (registry : Option Text) : IO Files := do
  match registry with
  | none => return Files.standard
  | some path =>
    try
      let content ← IO.FS.readBinFile (string path)
      return Files.standard.place path (.file 0o644 content.toList)
    catch
      | .noFileOrDirectory .. => return Files.standard
      | _ => return Files.standard.place path .socket

def stamp : IO Text := do
  return bytes ((← Std.Time.PlainDateTime.now).format "uuuu-MM-dd HH:mm:ss")

def write (stream : IO.FS.Stream) (t : Text) : IO Unit := do
  stream.write ⟨t.toArray⟩
  stream.flush

end ProviderHost.Console

open ProviderHost in
/-- Runs the command line and ends with its exit code. -/
def main (args : List String) : IO UInt32 := do
  let args := args.map Console.bytes
  let o : Occasion :=
    { args := args
      environment := ← Console.environment
      input := ← Console.input args
      drawn := ← Console.drawnIds }
  let w : World System :=
    { kernel := {}, files := ← Console.files (Session.registry? .blank o) }
  let r := Session.run Roster .blank o w
  Console.write (← IO.getStdout) r.printed
  Console.write (← IO.getStderr) (r.journal.print (← Console.stamp))
  return r.exit.toUInt32
