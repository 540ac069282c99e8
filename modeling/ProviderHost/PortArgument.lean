import ProviderHost.Journal
import ProviderHost.Text.Decimal

/-!
# The port among a provider's arguments

A provider that also serves HTTP is told its port as `--port N` or `--port=N`. The first such
argument decides; when its value is no port the argument is ignored and reported.
-/

namespace ProviderHost

/-- The port that a text denotes. It is read as a word of 32 bits, and one that is a port is kept
in 16 bits. -/
def port? (t : Text) : Option Nat :=
  (Text.toWord? 32 t).bind fun n =>
    if n = 0 ∨ 65535 < n then none else some (n % Text.wordCount 16)

def portValue? : List Text → Option Text
  | [] => none
  | a :: rest =>
    match decide (a = ("--port" : Text)), rest with
    | true, value :: _ => some value
    | _, _ =>
      match Text.after? "--port=" a with
      | some value => some value
      | none => portValue? rest

inductive PortArgument where
  | absent
  | invalid (value : Text)
  | port (n : Nat)
  deriving DecidableEq, Repr

namespace PortArgument

def find (args : List Text) : PortArgument :=
  match portValue? args with
  | none => .absent
  | some value =>
    match port? value with
    | none => .invalid value
    | some n => .port n

def port? : PortArgument → Option Nat
  | .port n => some n
  | _ => none

def portOr (fallback : Nat) (args : List Text) : Nat := (find args).port?.getD fallback

def report (p : PortArgument) (j : Journal) : Journal :=
  match p with
  | .invalid value => j.warn ("ignoring invalid --port value '" ++ value ++ "'")
  | _ => j

end PortArgument

end ProviderHost
