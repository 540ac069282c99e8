import ProviderHost.Files

/-!
# The search for executables

A command with a slash names a file; any other is looked for in the directories of the search
path, in order. An empty directory stands for the working directory.
-/

namespace ProviderHost.SearchPath

def standard : Text := "/usr/local/bin:/usr/bin:/bin"

def fileIn (directory command : Text) : Text :=
  (if directory = [] then Text.ofString "." else directory) ++ "/" ++ command

def nextColon? (path : Text) (start : Nat) : Option Nat :=
  ((path.drop start).idxOf? Byte.colon).map (start + ·)

/-- The directory that is named from the offset `start` up to the next colon or the end. -/
def directoryAt (path : Text) (start : Nat) : Text :=
  match nextColon? path start with
  | some colon => (path.drop start).take (colon - start)
  | none => path.drop start

theorem le_of_nextColon? {path : Text} {start colon : Nat}
    (next : nextColon? path start = some colon) : start ≤ colon := by
  obtain ⟨ahead, -, rfl⟩ := Option.map_eq_some_iff.mp next
  exact Nat.le_add_right start ahead

/-- Looks for a command in the directories that are named from the offset `start` on. -/
def scan (files : Files) (path command : Text) (start : Nat) : Option Text :=
  if start ≤ path.length then
    let file := fileIn (directoryAt path start) command
    if files.isExecutable file then some file
    else
      match _h : nextColon? path start with
      | none => none
      | some colon => scan files path command (colon + 1)
  else none
termination_by path.length + 1 - start
decreasing_by
  have := le_of_nextColon? _h
  omega

def find? (files : Files) (path : Option Text) (command : Text) : Option Text :=
  if command = [] then none
  else if Byte.slash ∈ command then
    if files.isExecutable command then some command else none
  else scan files (path.getD standard) command 0

end ProviderHost.SearchPath
