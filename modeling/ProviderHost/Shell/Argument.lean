import ProviderHost.Shell.Number
import ProviderHost.Shell.State

/-!
# The arguments of commands

Options stand in front of the arguments of a command, several letters behind one dash if so
wanted. The letters that a command knows are given as a text, in which a colon follows those that
take an argument of their own.
-/

namespace ProviderHost.Shell

namespace Argument

/-- Whether a letter takes an argument; none if it is not known. -/
def letter? (c : UInt8) : Text → Option Bool
  | b :: 58 :: rest => if b = c then some true else letter? c rest
  | b :: rest => if b = c then some false else letter? c rest
  | [] => none

structure Given where
  letter : UInt8
  argument : Text := []
  deriving DecidableEq, Repr

/-- The options in front of arguments, and what follows them or why that is in vain. -/
structure Options where
  given : List Given
  rest : Except Text (List Text)

namespace Options

def cons (g : Given) (o : Options) : Options := { o with given := g :: o.given }

def ofLetters (known : Text) (others : List Text → Options) (args : List Text) : Text → Options
  | [] => others args
  | c :: rest =>
    match letter? c known with
    | none => ⟨[], .error ("Illegal option -" ++ [c])⟩
    | some false => (ofLetters known others args rest).cons ⟨c, []⟩
    | some true =>
      match rest, args with
      | _ :: _, args => (others args).cons ⟨c, rest⟩
      | [], a :: args => (others args).cons ⟨c, a⟩
      | [], [] => ⟨[], .error ("No arg for -" ++ [c] ++ " option")⟩

def read (known : Text) : Nat → List Text → Options
  | n + 1, (45 :: c :: rest) :: args =>
    if c = 45 ∧ rest = [] then ⟨[], .ok args⟩
    else ofLetters known (read known n) args (c :: rest)
  | _, args => ⟨[], .ok args⟩

end Options

def options (known : Text) (args : List Text) : Options := .read known args.length args

end Argument

namespace Act

def options (known : Text) (args : List Text) : Act (List Argument.Given × List Text) := do
  let o := Argument.options known args
  match o.rest with
  | .ok rest => return (o.given, rest)
  | .error message => fail message

def operands (args : List Text) : Act (List Text) := do
  return (← options [] args).2

def maxNumber : Int := 2147483647

def refuseNumber {α : Type} (t : Text) : Act α := fail ("Illegal number: " ++ t)

def number (t : Text) : Act Nat := do
  match Numeral.whole? t with
  | some n => if 0 ≤ n ∧ n ≤ maxNumber then return n.toNat else refuseNumber t
  | none => refuseNumber t

def integer (t : Text) : Act Int := do
  match Numeral.whole? t with
  | some n => return n
  | none => refuseNumber t

end Act

end ProviderHost.Shell
