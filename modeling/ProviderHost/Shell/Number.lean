import ProviderHost.Shell.Pattern

/-!
# Numbers in scripts

Whole numbers of 64 bits with a sign. They are read from the start of a text, blanks and a sign
first, and a number that is too great is taken for the greatest.
-/

namespace ProviderHost.Shell

def digit? (b : UInt8) : Option Nat :=
  if Byte.isDigit b then some (b.toNat - 48)
  else if ByteClass.isLower b then some (b.toNat - 87)
  else if ByteClass.isUpper b then some (b.toNat - 55)
  else none

def isDigitIn (base : Nat) (b : UInt8) : Bool := (digit? b).any (· < base)

def greatest : Int := 9223372036854775807
def least : Int := -9223372036854775808

def wrap (n : Int) : Int := Int.bmod n 18446744073709551616

structure Numeral where
  value : Int
  found : Bool
  tooGreat : Bool := false
  rest : Text
  deriving DecidableEq, Repr

namespace Numeral

def base (t : Text) : Nat × Text :=
  match t with
  | 48 :: x :: d :: rest =>
    if (x = 120 ∨ x = 88) ∧ isDigitIn 16 d then (16, d :: rest)
    else if (x = 98 ∨ x = 66) ∧ isDigitIn 2 d then (2, d :: rest)
    else (8, t)
  | 48 :: _ => (8, t)
  | _ => (10, t)

/-- Reads a number; base 0 lets its first digits say which base it has. -/
def read (inBase : Nat) (t : Text) : Numeral :=
  let start := t.dropWhile ByteClass.isSpace
  let (negative, body) :=
    match start with
    | 45 :: body => (true, body)
    | 43 :: body => (false, body)
    | body => (false, body)
  let (b, digits) :=
    if inBase = 0 then base body
    else if inBase = 16 ∧ (base body).1 = 16 then base body
    else (inBase, body)
  let front := digits.takeWhile (isDigitIn b)
  if front = [] then { value := 0, found := false, rest := t }
  else
    let size : Int := front.foldl (fun n d => n * b + (digit? d).getD 0) 0
    let value := if negative then -size else size
    { value := max least (min greatest value)
      found := true
      tooGreat := value < least ∨ greatest < value
      rest := digits.drop front.length }

def whole? (t : Text) : Option Int :=
  let n := read 10 t
  if n.found ∧ ¬ n.tooGreat ∧ n.rest.all ByteClass.isSpace then some n.value else none

end Numeral

end ProviderHost.Shell
