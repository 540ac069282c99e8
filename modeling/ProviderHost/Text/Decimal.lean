import ProviderHost.Text

/-!
# Decimal numbers

A number is written in decimal digits without a sign or leading zeros, and read from digits
alone: leading zeros are accepted, and a sign, a blank or an empty text is not.
-/

namespace ProviderHost.Text

def ofNat (n : Nat) : Text := (Nat.toDigits 10 n).map fun c => c.toNat.toUInt8

/-- The digits of an integer, with a minus sign in front of a negative one. -/
def ofInt : Int → Text
  | .ofNat n => ofNat n
  | .negSucc n => 45 :: ofNat (n + 1)

def digitValue (b : UInt8) : Nat := b.toNat - 48

def digitsValue (t : Text) : Nat := t.foldl (fun n b => 10 * n + digitValue b) 0

/-- The number that a non-empty string of digits denotes. -/
def toNat? (t : Text) : Option Nat :=
  if t ≠ [] ∧ t.all Byte.isDigit then some (digitsValue t) else none

def wordCount (bits : Nat) : Nat := 1 <<< bits

/-- The number that a non-empty string of digits denotes, if it fits a word of some bits. -/
def toWord? (bits : Nat) (t : Text) : Option Nat := (toNat? t).filter (· < wordCount bits)

theorem toNat?_eq_some_iff {t : Text} {n : Nat} :
    toNat? t = some n ↔ (t ≠ [] ∧ t.all Byte.isDigit) ∧ digitsValue t = n := by
  unfold toNat?
  by_cases h : t ≠ [] ∧ t.all Byte.isDigit
  · rw [if_pos h, Option.some.injEq]
    exact ⟨fun e => ⟨h, e⟩, fun e => e.2⟩
  · rw [if_neg h]
    exact ⟨fun e => (nomatch e), fun e => absurd e.1 h⟩

theorem toWord?_eq_some_iff {bits : Nat} {t : Text} {n : Nat} :
    toWord? bits t = some n ↔ toNat? t = some n ∧ n < wordCount bits := by
  simp [toWord?, Option.filter_eq_some_iff]

end ProviderHost.Text
