import ProviderHost.SystemFault

/-!
# Limits

What a process may have at most. Each limit has a soft value, which counts, and a hard one, up to
which the soft one may be raised again; no value means that there is no limit.
-/

namespace ProviderHost

inductive Resource where
  | processorTime
  | fileSize
  | dataSize
  | stackSize
  | dumpSize
  | residentMemory
  | lockedMemory
  | processes
  | handles
  | addressSpace
  | fileLocks
  | priority
  deriving DecidableEq, Repr

structure Limit where
  soft : Option Nat
  hard : Option Nat
  deriving DecidableEq, Repr

namespace Limit

def initial : Resource → Limit
  | .stackSize => ⟨some 8388608, none⟩
  | .lockedMemory => ⟨some 8388608, some 8388608⟩
  | .handles => ⟨some 1048576, some 1048576⟩
  | .priority => ⟨some 0, some 0⟩
  | _ => ⟨none, none⟩

def within : Option Nat → Option Nat → Bool
  | _, none => true
  | none, some _ => false
  | some a, some b => decide (a ≤ b)

/-- The limit that is asked for in place of an old one. The soft value may not be beyond the hard
one, and the hard one may not grow. -/
def change (old new : Limit) : Except SystemFault Limit :=
  if ¬ within new.soft new.hard then .error .invalid
  else if ¬ within new.hard old.hard then .error .notPermitted
  else .ok new

end Limit

end ProviderHost
