import ProviderHost.Shell.Field
import ProviderHost.Shell.State

/-!
# What the parts of a shell need of each other

Expansion runs commands, and commands expand words and run other commands; each is given the rest
of the shell as an `Engine`.
-/

namespace ProviderHost.Shell

structure Manner where
  quoted : Bool := false
  splits : Bool := false
  /-- Whether a tilde at its start stands for a home directory. -/
  tilde : Bool := false
  /-- Whether one does so behind the equals sign of an assignment or behind a colon. -/
  assigns : Bool := false
  /-- Whether it is the word of a parameter, whose own bytes are split too. -/
  inner : Bool := false

structure Mode where
  final : Bool := false
  /-- Whether its status is looked at, so that a failure is none of the script. -/
  tested : Bool := false

structure Engine where
  run : Command → Mode → Act Nat
  expand : Manner → Word → Act (List Piece)
  evaluate : Text → Mode → Act Nat
  leave : Option Jump → Act Unit

end ProviderHost.Shell
