import ProviderHost.Shell.Number

/-!
# Binary numbers with a fraction

Numbers of the form `m · 2 ^ e` with 53 bits for `m` and 11 for the exponent. A text is rounded
to the nearest of them, a tie to the even one, and the number is written with as many digits as
asked for, rounded in the same way.
-/

namespace ProviderHost.Shell

/-- A number, which stands for `m · 2 ^ e`, or what is none. -/
inductive Binary64 where
  | finite (negative : Bool) (m : Nat) (e : Int)
  | infinite (negative : Bool)
  | nan (negative : Bool)
  deriving DecidableEq, Repr

/-- `num / den` rounded to a whole number, a tie to the even one. -/
def roundQuotient (num den : Nat) : Nat :=
  let q := num / den
  let r := num % den
  if 2 * r > den ∨ (2 * r = den ∧ q % 2 = 1) then q + 1 else q

def powerOf (base : Nat) (e : Int) : Nat := Nat.pow base e.toNat

def scaled (num den base : Nat) (e : Int) : Nat × Nat :=
  (num * powerOf base e, den * powerOf base (-e))

namespace Binary64

def leastExponent : Int := -1074

def greatestExponent : Int := 971

/-- What a text was read as. -/
structure Reading where
  value : Binary64
  found : Bool
  /-- Whether the number is too great or too small to be represented well. -/
  outOfRange : Bool := false
  rest : Text

def nearest (negative : Bool) (num den : Nat) : Binary64 × Bool :=
  if num = 0 then (.finite negative 0 leastExponent, false)
  else
    let top : Int := (Nat.log2 num : Int) - (Nat.log2 den : Int) - 53
    let fit (e : Int) : Nat × Bool :=
      let (a, b) := scaled num den 2 (-e)
      (roundQuotient a b, a % b ≠ 0)
    let rec place (n : Nat) (e : Int) : Int :=
      match n with
      | 0 => e
      | n + 1 => if (fit e).1 < 9007199254740992 then e else place n (e + 1)
    let e := place 4 (max leastExponent top)
    let (m, inexact) := fit e
    if greatestExponent < e then (.infinite negative, true)
    else (.finite negative m e, inexact ∧ m < 4503599627370496)

def exponentLimit (digits : Nat) : Nat := 20000 + 4 * digits

def readExponent (lower upper : UInt8) (t : Text) : Int × Text :=
  match t with
  | mark :: rest =>
    if mark = lower ∨ mark = upper then
      let (negative, body) :=
        match rest with
        | 45 :: body => (true, body)
        | 43 :: body => (false, body)
        | body => (false, body)
      let digits := body.takeWhile Byte.isDigit
      if digits = [] then (0, t)
      else
        let n : Int := Text.digitsValue digits
        (if negative then -n else n, body.drop digits.length)
    else (0, t)
  | [] => (0, t)

/-- Digits with a point among them: the number they form, how many of them follow the point, how
many there are, and what follows. -/
def readDigits (base : Nat) (t : Text) : Nat × Nat × Nat × Text :=
  let whole := t.takeWhile (isDigitIn base)
  let rest := t.drop whole.length
  let value (ds : Text) : Nat := ds.foldl (fun n d => n * base + (digit? d).getD 0) 0
  match rest with
  | 46 :: more =>
    let part := more.takeWhile (isDigitIn base)
    if whole = [] ∧ part = [] then (0, 0, 0, t)
    else (value (whole ++ part), part.length, whole.length + part.length, more.drop part.length)
  | rest => (value whole, 0, whole.length, rest)

/-- What follows a word, small and capital letters being the same. -/
def afterWord? (word t : Text) : Option Text :=
  let lower (b : UInt8) : UInt8 := if ByteClass.isUpper b then b + 32 else b
  if (t.take word.length).map lower = word then some (t.drop word.length) else none

def read (t : Text) : Reading :=
  let start := t.dropWhile ByteClass.isSpace
  let (negative, body) :=
    match start with
    | 45 :: body => (true, body)
    | 43 :: body => (false, body)
    | body => (false, body)
  let bounded (e : Int) (digits : Nat) : Int :=
    max (-(exponentLimit digits : Int)) (min (exponentLimit digits) e)
  let hexadecimal : Option Reading :=
    match body with
    | 48 :: x :: rest =>
      if x = 120 ∨ x = 88 then
        let (m, places, count, rest) := readDigits 16 rest
        if count = 0 then none
        else
          let (e, rest) := readExponent 112 80 rest
          let (num, den) := scaled m 1 2 (bounded (e - 4 * places) (4 * count))
          let (value, outOfRange) := nearest negative num den
          some ⟨value, true, outOfRange, rest⟩
      else none
    | _ => none
  match hexadecimal with
  | some r => r
  | none =>
    let (m, places, count, rest) := readDigits 10 body
    if count ≠ 0 then
      let (e, rest) := readExponent 101 69 rest
      let (num, den) := scaled m 1 10 (bounded (e - places) count)
      let (value, outOfRange) := nearest negative num den
      ⟨value, true, outOfRange, rest⟩
    else
      match afterWord? "infinity" body, afterWord? "inf" body, afterWord? "nan" body with
      | some rest, _, _ | none, some rest, _ => ⟨.infinite negative, true, false, rest⟩
      | none, none, some rest =>
        let inner := (rest.drop 1).takeWhile fun b => ByteClass.contains b .alnum || b == 95
        let rest :=
          if rest.head? = some 40 ∧ (rest.drop (inner.length + 1)).head? = some 41 then
            rest.drop (inner.length + 2)
          else rest
        ⟨.nan negative, true, false, rest⟩
      | none, none, none => ⟨.finite false 0 leastExponent, false, false, t⟩

def ofNat (n : Nat) : Binary64 := .finite false n 0

def isNegative : Binary64 → Bool
  | .finite negative _ _ | .infinite negative | .nan negative => negative

def withPoint (n places : Nat) (always : Bool) : Text :=
  let digits := Text.ofNat n
  let digits := List.replicate (places + 1 - digits.length) 48 ++ digits
  let whole := digits.take (digits.length - places)
  if places = 0 then (if always then whole ++ "." else whole)
  else whole ++ "." ++ digits.drop (digits.length - places)

def positional (m : Nat) (e : Int) (places : Nat) (always : Bool) : Text :=
  let (num, den) := scaled m 1 2 e
  withPoint (roundQuotient (num * Nat.pow 10 places) den) places always

/-- The decimal exponent of `m · 2 ^ e` once it is rounded to `places + 1` digits, and these. -/
def leading (m : Nat) (e : Int) (places : Nat) : Int × Nat :=
  if m = 0 then (0, 0)
  else
    let (num, den) := scaled m 1 2 e
    let digits (n : Nat) : Int := (Nat.toDigits 10 n).length
    let estimate := digits num - digits den
    let atLeast (x : Int) : Bool :=
      let (a, b) := scaled den 1 10 x
      decide (a ≤ num * b)
    let x := if atLeast estimate then estimate else estimate - 1
    let (a, b) := scaled num den 10 (places - x)
    let n := roundQuotient a b
    if n < Nat.pow 10 (places + 1) then (x, n) else (x + 1, n / 10)

/-- An exponent with its sign and at least `width` digits. -/
def exponent (x : Int) (width : Nat) : Text :=
  let digits := Text.ofNat x.natAbs
  (if x < 0 then [45] else [43]) ++ List.replicate (width - digits.length) 48 ++ digits

/-- A number with one digit in front of the point, and its exponent. -/
def scientific (m : Nat) (e : Int) (places : Nat) (always : Bool) : Text :=
  let (x, n) := leading m e places
  withPoint n places always ++ "e" ++ exponent x 2

/-- Takes the zeros away that end a fraction, and the point with them. -/
def trimZeros (t : Text) : Text :=
  if t.contains 46 then Text.dropEnd (· == 46) (Text.dropEnd (· == 48) t) else t

/-- A number in the shorter of both forms with `count` digits. -/
def general (m : Nat) (e : Int) (count : Nat) (always : Bool) : Text :=
  let count := max count 1
  let (x, n) := leading m e (count - 1)
  let keep (t : Text) : Text := if always then t else trimZeros t
  if -4 ≤ x ∧ x < count then keep (positional m e (count - 1 - x).toNat always)
  else keep (withPoint n (count - 1) always) ++ "e" ++ exponent x 2

def binaryParts (m : Nat) (e : Int) : Nat × Nat × Int :=
  if m = 0 then (0, 0, 0)
  else
    let shift := 52 - Nat.log2 m
    let shift := if e - shift < leastExponent then (e - leastExponent).toNat else shift
    let m := m <<< shift
    (m / 4503599627370496, m % 4503599627370496, e - shift + 52)

def hexadecimal (m : Nat) (e : Int) (places : Option Nat) (always : Bool) : Text :=
  let (first, fraction, x) := binaryParts m e
  let digits (n count : Nat) : Text :=
    let ds := (Nat.toDigits 16 n).map fun c => c.toNat.toUInt8
    List.replicate (count - ds.length) 48 ++ ds
  let (first, fraction) :=
    match places with
    | none => (first, Text.dropEnd (· == 48) (digits fraction 13))
    | some p =>
      if 13 ≤ p then (first, digits fraction 13 ++ List.replicate (p - 13) 48)
      else
        let n := roundQuotient (first * 4503599627370496 + fraction) (Nat.pow 16 (13 - p))
        let unit := Nat.pow 16 p
        (n / unit, if p = 0 then [] else digits (n % unit) p)
  let tail : Text := if fraction = [] ∧ ¬ always then [] else "." ++ fraction
  "0x" ++ Text.ofNat first ++ tail ++ "p" ++ exponent x 1

end Binary64

end ProviderHost.Shell
