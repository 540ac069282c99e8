import ProviderHost.Shell.Binary64
import ProviderHost.Shell.Escape

/-!
# Formatted output

A format is printed with its directives replaced by the arguments, and again as long as there are
arguments left. An argument that is no number counts as the number at its start, and a complaint
is made of it.
-/

namespace ProviderHost.Shell.Format

structure Layout where
  left : Bool := false
  plus : Bool := false
  blank : Bool := false
  alternate : Bool := false
  zeros : Bool := false
  width : Nat := 0
  precision : Option Nat := none
  deriving DecidableEq, Repr

/-- What has been printed and what is left. -/
structure State where
  /-- The output, in reverse. -/
  out : Text := []
  args : List Text
  took : Bool := false
  complaints : List Text := []

inductive Outcome where
  | done
  | cutShort
  | fault (message : Text)

namespace Layout

def pad (l : Layout) (t : Text) : Text :=
  let gap := List.replicate (l.width - t.length) Byte.space
  if l.left then t ++ gap else gap ++ t

/-- Pads digits behind a sign, with zeros between them if so wanted. -/
def padNumber (l : Layout) (zeros : Bool) (sign digits : Text) : Text :=
  if zeros ∧ ¬ l.left then
    sign ++ List.replicate (l.width - (sign ++ digits).length) 48 ++ digits
  else l.pad (sign ++ digits)

def text (l : Layout) (t : Text) : Text :=
  l.pad (match l.precision with
    | some p => t.take p
    | none => t)

def sign (l : Layout) (negative : Bool) : Text :=
  if negative then [45] else if l.plus then [43] else if l.blank then [Byte.space] else []

/-- Digits with zeros in front up to the precision; none for zero with no precision at all. -/
def digits (l : Layout) (n : Nat) (ds : Text) : Text :=
  match l.precision with
  | none => ds
  | some p => if n = 0 ∧ p = 0 then [] else List.replicate (p - ds.length) 48 ++ ds

def signed (l : Layout) (n : Int) : Text :=
  l.padNumber (l.zeros && l.precision.isNone) (l.sign (n < 0))
    (l.digits n.natAbs (Text.ofNat n.natAbs))

def capital (t : Text) : Text := t.map fun b => if ByteClass.isLower b then b - 32 else b

def unsigned (l : Layout) (letter : UInt8) (n : Nat) : Text :=
  let base := if letter = 111 then 8 else if letter = 117 then 10 else 16
  let ds := (Nat.toDigits base n).map fun c => c.toNat.toUInt8
  let ds := l.digits n ds
  let ds := if l.alternate ∧ base = 8 ∧ ds.head? ≠ some 48 then 48 :: ds else ds
  let sign : Text := if l.alternate ∧ base = 16 ∧ n ≠ 0 then "0x" else []
  let t := l.padNumber (l.zeros && l.precision.isNone) sign ds
  if letter = 88 then capital t else t

def real (l : Layout) (letter : UInt8) (x : Binary64) : Text :=
  let lower := if ByteClass.isUpper letter then letter + 32 else letter
  let t :=
    match x with
    | .infinite negative => l.pad (l.sign negative ++ "inf")
    | .nan negative => l.pad (l.sign negative ++ "nan")
    | .finite negative m e =>
      let places := l.precision.getD 6
      if lower = 97 then
        match Binary64.hexadecimal m e l.precision l.alternate with
        | 48 :: x :: ds => l.padNumber l.zeros (l.sign negative ++ [48, x]) ds
        | ds => l.padNumber l.zeros (l.sign negative) ds
      else
        l.padNumber l.zeros (l.sign negative)
          (if lower = 102 then Binary64.positional m e places l.alternate
          else if lower = 101 then Binary64.scientific m e places l.alternate
          else Binary64.general m e places l.alternate)
  if lower = letter then t else capital t

end Layout

namespace State

def put (s : State) (t : Text) : State := { s with out := t.reverse ++ s.out }

def take (s : State) : Option Text × State :=
  match s.args with
  | a :: args => (some a, { s with args := args, took := true })
  | [] => (none, s)

def complain (s : State) (message : Text) : State :=
  { s with complaints := s.complaints ++ [message] }

def check (s : State) (arg rest : Text) (found outOfRange : Bool) : State :=
  if rest ≠ [] then
    s.complain (arg ++ (if found then Text.ofString ": not completely converted"
      else Text.ofString ": expected numeric value"))
  else if outOfRange then s.complain (arg ++ ": Numerical result out of range")
  else s

/-- The byte that a quote at the start of an argument asks for. -/
def quotedByte? (arg : Text) : Option Nat :=
  match arg with
  | q :: rest => if q = 34 ∨ q = 39 then some ((rest.headD 0).toNat) else none
  | [] => none

def takeSigned (s : State) : Int × State :=
  match s.take with
  | (none, s) => (0, s)
  | (some arg, s) =>
    match quotedByte? arg with
    | some n => (n, s)
    | none =>
      let n := Numeral.read 0 arg
      (n.value, s.check arg n.rest n.found n.tooGreat)

/-- The next argument as a number without a sign; a sign counts down from the bound. -/
def takeUnsigned (s : State) : Nat × State :=
  match s.take with
  | (none, s) => (0, s)
  | (some arg, s) =>
    match quotedByte? arg with
    | some n => (n, s)
    | none =>
      let bound : Nat := 18446744073709551616
      let start := arg.dropWhile ByteClass.isSpace
      let negative := start.head? = some 45
      let body := if negative ∨ start.head? = some 43 then start.tail else start
      let (base, digits) := Numeral.base body
      let front := digits.takeWhile (isDigitIn base)
      if front = [] then (0, s.check arg arg false false)
      else
        let n := front.foldl (fun n d => n * base + (digit? d).getD 0) 0
        let s := s.check arg (digits.drop front.length) true (decide (bound ≤ n))
        if bound ≤ n then (bound - 1, s)
        else ((if negative then (bound - n) % bound else n), s)

def takeReal (s : State) : Binary64 × State :=
  match s.take with
  | (none, s) => (.ofNat 0, s)
  | (some arg, s) =>
    match quotedByte? arg with
    | some n => (.ofNat n, s)
    | none =>
      let r := Binary64.read arg
      (r.value, s.check arg r.rest r.found r.outOfRange)

end State

def count (t : Text) : Nat := Text.digitsValue (t.takeWhile Byte.isDigit)

def narrow (n : Int) : Int := Int.bmod n 4294967296

/-- A directive: its layout, what it takes from the arguments, and the rest behind it. -/
def layout (t : Text) (s : State) : Layout × State × Text :=
  let flags := t.takeWhile fun b => (Text.ofString "#-+ 0").contains b
  let rest := t.drop flags.length
  let l : Layout :=
    { left := flags.contains 45, plus := flags.contains 43, blank := flags.contains 32
      alternate := flags.contains 35, zeros := flags.contains 48 }
  let digits (t : Text) : Text := t.dropWhile fun b => Byte.isDigit b || b == 42
  let (l, s, rest) :=
    match rest with
    | 42 :: rest =>
      let (n, s) := s.takeSigned
      let n := narrow n
      ({ l with width := n.natAbs, left := l.left || n < 0 }, s, rest)
    | rest => ({ l with width := count rest }, s, digits rest)
  match rest with
  | 46 :: 42 :: rest =>
    let (n, s) := s.takeSigned
    let n := narrow n
    ({ l with precision := if n < 0 then none else some n.toNat }, s, rest)
  | 46 :: rest => ({ l with precision := some (count rest) }, s, digits rest)
  | rest => (l, s, rest)

def directive (letter : UInt8) (l : Layout) (shown : Text) (s : State) : Outcome × State :=
  if letter = 98 then
    let (arg, s) := s.take
    match Escape.expand (arg.getD []) with
    | (t, cut) => (if cut then .cutShort else .done, s.put (l.text t))
  else if letter = 115 then
    let (arg, s) := s.take
    (.done, s.put (l.text (arg.getD [])))
  else if letter = 99 then
    let (arg, s) := s.take
    (.done, s.put (l.pad [(arg.getD []).headD 0]))
  else if letter = 100 ∨ letter = 105 then
    let (n, s) := s.takeSigned
    (.done, s.put (l.signed n))
  else if (Text.ofString "ouxX").contains letter then
    let (n, s) := s.takeUnsigned
    (.done, s.put (l.unsigned letter n))
  else if (Text.ofString "aAeEfFgG").contains letter then
    let (x, s) := s.takeReal
    (.done, s.put (l.real letter x))
  else (.fault (shown ++ ": invalid directive"), s)

def once : Nat → Text → State → Outcome × State
  | 0, _, s => (.done, s)
  | _, [], s => (.done, s)
  | n + 1, 92 :: rest, s =>
    match Escape.behind rest with
    | (b, rest) => once n rest (s.put [b])
  | n + 1, 37 :: 37 :: rest, s => once n rest (s.put [37])
  | n + 1, 37 :: rest, s =>
    match layout rest s with
    | (_, s, []) => (.fault "missing format character", s)
    | (l, s, letter :: after) =>
      let shown := 37 :: rest.take (rest.length - after.length)
      match directive letter l shown s with
      | (.done, s) => once n after s
      | (outcome, s) => (outcome, s)
  | n + 1, b :: rest, s => once n rest (s.put [b])

def repeatedly (format : Text) : Nat → State → Outcome × State
  | 0, s => (.done, s)
  | n + 1, s =>
    match once format.length format s with
    | (.done, s) => if s.took ∧ s.args ≠ [] then repeatedly format n s else (.done, s)
    | (outcome, s) => (outcome, s)

def print (format : Text) (args : List Text) : Outcome × State :=
  repeatedly format (args.length + 1) { args := args }

end ProviderHost.Shell.Format
