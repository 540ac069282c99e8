/-!
# Byte strings

Every text the host reads, stores or prints is a string of bytes.
-/

namespace ProviderHost

/-- A string of bytes: offsets and lengths count bytes, and no encoding is assumed. -/
abbrev Text := List UInt8

/-! ### Bytes with a meaning -/

namespace Byte

@[match_pattern] abbrev newline : UInt8 := 10
@[match_pattern] abbrev carriageReturn : UInt8 := 13
@[match_pattern] abbrev tab : UInt8 := 9
@[match_pattern] abbrev space : UInt8 := 32
@[match_pattern] abbrev quote : UInt8 := 34
@[match_pattern] abbrev slash : UInt8 := 47
@[match_pattern] abbrev colon : UInt8 := 58
@[match_pattern] abbrev equals : UInt8 := 61
@[match_pattern] abbrev backslash : UInt8 := 92
@[match_pattern] abbrev openBrace : UInt8 := 123
@[match_pattern] abbrev closeBrace : UInt8 := 125

def isDigit (b : UInt8) : Bool := 48 ≤ b && b ≤ 57

def isBlank (b : UInt8) : Bool := b == space || b == tab || b == carriageReturn || b == newline

end Byte

namespace Text

def ofString (s : String) : Text := s.toList.map fun c => c.toNat.toUInt8

instance : Coe String Text := ⟨ofString⟩

def after? : Text → Text → Option Text
  | [], t => some t
  | _ :: _, [] => none
  | a :: lead, b :: t => if a = b then after? lead t else none

def startsWith (lead t : Text) : Bool := (after? lead t).isSome

theorem after?_eq_some_iff {lead t rest : Text} : after? lead t = some rest ↔ t = lead ++ rest := by
  induction lead generalizing t with
  | nil => simp [after?, eq_comm]
  | cons a lead ih =>
    cases t with
    | nil => simp [after?]
    | cons b t =>
      by_cases h : a = b
      · simp [after?, h, ih]
      · simp [after?, h, Ne.symm h]

def cut (b : UInt8) : Text → Text × Option Text
  | [] => ([], none)
  | c :: t => if c = b then ([], some t) else ((c :: (cut b t).1), (cut b t).2)

def cutLast? (b : UInt8) (t : Text) : Option (Text × Text) :=
  match cut b t.reverse with
  | (back, some front) => some (front.reverse, back.reverse)
  | (_, none) => none

/-- The text before the first occurrence of `mark`, and what follows that occurrence. -/
def cutAt? (mark : Text) : Text → Option (Text × Text)
  | [] => (after? mark []).map ([], ·)
  | c :: t =>
    match after? mark (c :: t) with
    | some rest => some ([], rest)
    | none => (cutAt? mark t).map fun (front, rest) => (c :: front, rest)

/-- The pieces between the occurrences of `b`, empty ones included. -/
def fields (b : UInt8) : Text → List Text
  | [] => [[]]
  | c :: t =>
    if c = b then [] :: fields b t
    else
      match fields b t with
      | piece :: pieces => (c :: piece) :: pieces
      | [] => [[c]]

def join (separator : Text) : List Text → Text
  | [] => []
  | [piece] => piece
  | piece :: pieces => piece ++ separator ++ join separator pieces

/-- The text without the bytes at its end that satisfy `p`. -/
def dropEnd (p : UInt8 → Bool) (t : Text) : Text := (t.reverse.dropWhile p).reverse

def trim (t : Text) : Text := dropEnd Byte.isBlank (t.dropWhile Byte.isBlank)

end Text

end ProviderHost
