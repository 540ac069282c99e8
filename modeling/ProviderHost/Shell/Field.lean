import ProviderHost.Shell.Pattern

/-!
# Fields

What the expansion of a word yields before it is split: bytes, some of them quoted, in pieces
that say whether and where they may be split. The bytes of a value are split at the separators;
of these, blanks count only between two fields and as many as there are together, any other one
ends a field. The parameters of a script are split at zero bytes, which no value holds.
-/

namespace ProviderHost.Shell

/-- A byte of an expansion, or a quotation mark. -/
inductive Cell where
  | byte (b : UInt8) (quoted : Bool)
  | mark
  deriving DecidableEq, Repr

inductive Splitting where
  | nowhere
  | atSeparators
  | atZeros
  deriving DecidableEq, Repr

structure Piece where
  splitting : Splitting
  cells : List Cell

abbrev Field := List Cell

namespace Field

def text (f : Field) : Text :=
  f.filterMap fun
    | .byte b _ => some b
    | .mark => none

/-- Whether a field has a byte that may stand for others. -/
def isPattern (f : Field) : Bool :=
  f.any fun
    | .byte b _ => b == 42 || b == 63 || b == 91
    | .mark => false

/-- The pattern that a field is: bytes that are quoted stand for themselves. -/
def pattern (f : Field) : Text := (f.foldl step ([], false)).1.reverse
where
  /-- The pattern in reverse, and whether it ends with a backslash that nothing quotes. -/
  step : Text × Bool → Cell → Text × Bool
    | (out, open_), .byte b quoted =>
      if quoted then (b :: (if open_ then out else 92 :: out), false)
      else (b :: out, b == 92)
    | (out, _), .mark => (out, false)

/-- Fields that are being split off. -/
structure Splitter where
  /-- The finished fields, the latest first. -/
  fields : List Field := []
  /-- The bytes of the next field, in reverse. -/
  current : Field := []
  /-- How many more fields may be split off, if there is a limit. -/
  room : Option Nat := none
  /-- How much of the current field is left if nothing follows but separators. -/
  kept : Option Nat := none
  /-- Whether a blank ended the last field and nothing has followed it. -/
  behindBlank : Bool := false
  zeros : Bool := false

namespace Splitter

def isBlank (b : UInt8) : Bool := b == 32 || b == 9 || b == 10 || b == 0

def put (s : Splitter) (c : Cell) : Splitter := { s with current := c :: s.current }

def finish (s : Splitter) : Splitter :=
  { s with fields := s.current.reverse :: s.fields, current := [] }

def lastByte (s : Splitter) (c : Cell) (separates blank : Bool) : Splitter :=
  let here := s.current.length
  let s := s.put c
  if blank then { s with kept := some (s.kept.getD here) }
  else { s with kept := if separates ∧ s.behindBlank then s.kept else none, behindBlank := false }

def separator (s : Splitter) (c : Cell) (blank plain : Bool) : Splitter :=
  let behindBlank := if plain then s.behindBlank else blank
  if s.current.isEmpty ∧ behindBlank then { s with behindBlank := false }
  else
    match s.room with
    | some 1 =>
      { s.put c with room := some 0, kept := some s.current.length, behindBlank := behindBlank }
    | some n => { s.finish with room := some (n - 1), behindBlank := behindBlank }
    | none => { s.finish with behindBlank := behindBlank }

def byte (separators : Text) (zeros plain : Bool) (s : Splitter) (c : Cell) : Splitter :=
  match c with
  | .mark => { s.put c with behindBlank := false }
  | .byte b _ =>
    let separates := b == 0 || (! zeros && separators.contains b)
    let blank := separates && isBlank b
    if s.room = some 0 then s.lastByte c separates blank
    else if s.behindBlank then
      if blank then s
      else if separates then { s with behindBlank := false }
      else { s.put c with behindBlank := false }
    else if separates then s.separator c blank plain
    else s.put c

def piece (separators : Text) (s : Splitter) (p : Piece) : Splitter :=
  let within (zeros : Bool) : Splitter :=
    p.cells.foldl (byte separators zeros (zeros || s.zeros))
      { s with behindBlank := false, zeros := zeros }
  match p.splitting with
  | .nowhere => { s with current := p.cells.reverse ++ s.current }
  | .atSeparators => within false
  | .atZeros => within true

end Splitter

/-- The fields of an expansion; with `room`, the last of so many takes all the rest. -/
def split (separators : Text) (room : Option Nat) (pieces : List Piece) : List Field :=
  let s := pieces.foldl (Splitter.piece separators) { room := room }
  let last := s.current.reverse
  if s.zeros then (last :: s.fields).reverse
  else
    let last :=
      match s.kept with
      | some n => last.take n
      | none => last
    if last.isEmpty then s.fields.reverse else (last :: s.fields).reverse

end Field

def cellsOf (quoted : Bool) (t : Text) : List Cell := t.map fun b => .byte b quoted

namespace Field

/-- How many bytes the longest or the shortest part of a text has that a pattern fits at one of its
ends. A part counts up to its first zero byte, and so does the way forward through the text. -/
def cutLength? (p : Pattern) (atEnd longest : Bool) (t : Text) : Option Nat :=
  let shown (u : Text) : Text := u.takeWhile (· != 0)
  let places :=
    if atEnd = longest then List.range ((shown t).length + 1)
    else (List.range (t.length + 1)).reverse
  let place := places.find? fun i =>
    Pattern.fits p (shown (if atEnd then t.drop i else t.take i))
  place.map fun i => if atEnd then t.length - i else i

def cut (p : Pattern) (atEnd longest : Bool) (cells : List Cell) : List Cell :=
  match cutLength? p atEnd longest (text cells) with
  | none => cells
  | some k => if atEnd then cells.take (cells.length - k) else cells.drop k

end Field

end ProviderHost.Shell
