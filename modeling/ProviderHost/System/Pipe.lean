import ProviderHost.Text

/-!
# Pipes

A pipe holds what was written and not yet read in a few slots of fixed size. A write goes on in
the last slot if all of its odd part fits there, and else takes new slots; so a pipe of many
small writes can be full before its bytes are as many as it can hold. A short write goes in as
a whole or not at all.
-/

namespace ProviderHost

/-- A part of what a pipe holds. -/
structure Pipe.Slot where
  bytes : Text
  /-- How far the slot is used up, counting what was read from it already. -/
  used : Nat
  deriving DecidableEq, Repr

/-- A pipe with its slots, the oldest first. -/
structure Pipe where
  id : Nat
  slots : List Pipe.Slot := []
  deriving DecidableEq, Repr

namespace Pipe

def slotSize : Nat := 4096

def slotCount : Nat := 16

def held (p : Pipe) : Text := p.slots.flatMap (·.bytes)

/-- Fills new slots with bytes as long as there are free ones; answers what did not go in. -/
def fill : Nat → Text → List Slot × Text
  | 0, bytes => ([], bytes)
  | free + 1, bytes =>
    if bytes.isEmpty then ([], [])
    else
      let front := bytes.take slotSize
      match fill free (bytes.drop slotSize) with
      | (slots, rest) => (⟨front, front.length⟩ :: slots, rest)

/-- The slots with bytes put behind those of the last one, if they fit. -/
def extend? (bytes : Text) (count : Nat) : List Slot → Option (List Slot)
  | [] => none
  | [s] =>
    if s.used + count ≤ slotSize then some [⟨s.bytes ++ bytes, s.used + count⟩] else none
  | s :: rest => (extend? bytes count rest).map (s :: ·)

/-- Takes bytes in; answers what did not go in. A write that goes on does not look at the last
slot again. -/
def write (bytes : Text) (again : Bool) (p : Pipe) : Pipe × Text :=
  let odd := bytes.length % slotSize
  let (slots, bytes) :=
    if again ∨ odd = 0 then (p.slots, bytes)
    else
      match extend? (bytes.take odd) odd p.slots with
      | some slots => (slots, bytes.drop odd)
      | none => (p.slots, bytes)
  match fill (slotCount - slots.length) bytes with
  | (more, rest) => ({ p with slots := slots ++ more }, rest)

def takeFrom (count : Nat) : List Slot → Text × List Slot
  | [] => ([], [])
  | s :: rest =>
    let n := s.bytes.length
    if count = 0 then ([], s :: rest)
    else if count < n then (s.bytes.take count, ⟨s.bytes.drop count, s.used⟩ :: rest)
    else
      match takeFrom (count - n) rest with
      | (more, left) => (s.bytes ++ more, left)

def read (count : Nat) (p : Pipe) : Text × Pipe :=
  match takeFrom count p.slots with
  | (bytes, slots) => (bytes, { p with slots := slots })

end Pipe

end ProviderHost
