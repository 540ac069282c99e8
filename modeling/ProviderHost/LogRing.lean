import ProviderHost.Provider

/-!
# Log rings

The newest lines of a provider's output. Lines are numbered from 1; when a ring is full the
oldest line makes room, and the numbers go on.
-/

namespace ProviderHost

structure LogEntry where
  sequence : Nat
  stream : Stream
  text : Text
  deriving DecidableEq, Repr

/-- The newest entries, oldest first, and the count of those that made room. This count and the
number of the next entry are words of 64 bits in a running host. They are unbounded here: no host
lives to see 2^64 lines. -/
structure LogRing where
  capacity : Nat
  entries : List LogEntry := []
  dropped : Nat := 0
  next : Nat := 1
  deriving DecidableEq, Repr

namespace LogRing

/-- An empty ring; one of capacity 0 still holds one entry. -/
def ofCapacity (capacity : Nat) : LogRing := { capacity := max capacity 1 }

def size (r : LogRing) : Nat := r.entries.length

/-- The oldest entries make room until the ring holds no more than it can. -/
def evict (r : LogRing) : LogRing :=
  { r with
    entries := r.entries.drop (r.size - r.capacity)
    dropped := r.dropped + (r.size - r.capacity) }

def append (stream : Stream) (text : Text) (r : LogRing) : LogRing :=
  evict { r with entries := r.entries ++ [⟨r.next, stream, text⟩], next := r.next + 1 }

/-- The newest `limit` entries, oldest first; all of them for a limit of 0. -/
def tail (limit : Nat) (r : LogRing) : List LogEntry :=
  if limit = 0 then r.entries else r.entries.drop (r.size - limit)

end LogRing

end ProviderHost
