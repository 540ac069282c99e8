import ProviderHost.Shell.Job
import ProviderHost.Shell.Number

/-!
# Traps

What a script does when a signal arrives: nothing, or an action between two commands. A signal
that was ignored when the shell started stays ignored.
-/

namespace ProviderHost.Shell.Act

def trap? (s : State) (n : Nat) : Option Text := (s.traps.find? fun t => t.1 = n).map (·.2)

def armSignal (n : Nat) : Act Unit := do
  let s ← get
  if s.hardIgnored.contains n then return
  let wanted : Disposition :=
    match trap? s n with
    | none => untrapped s n
    | some action => if action = [] ∧ n ≠ SignalNumber.child then .ignored else .caught
  let old ← call (.handle n wanted)
  if old = .ignored ∧ ¬ s.armed.contains n then
    let _ ← call (.handle n .ignored)
    modify fun s => { s with hardIgnored := n :: s.hardIgnored }
  else modify fun s => { s with armed := if s.armed.contains n then s.armed else n :: s.armed }

def setTrap (n : Nat) (action : Option Text) : Act Unit := do
  modify fun s =>
    let others := s.traps.filter fun t => t.1 ≠ n
    { s with traps := (action.map fun a => (n, a)).toList ++ others }
  if n ≠ 0 then armSignal n

def hasTraps (s : State) : Bool := s.traps.any fun t => ! t.2.isEmpty

def runTrapsOf (e : Engine) (status : Nat) : List Nat → Act Unit
  | [] => return
  | n :: rest => do
    let s ← get
    if s.skip ≠ .none then modify fun s => { s with latest := some n }
    else if ¬ s.pending.contains n then runTrapsOf e status rest
    else
      modify fun s => { s with pending := s.pending.filter (· ≠ n) }
      match trap? s n with
      | none => runTrapsOf e status rest
      | some action =>
        let _ ← e.evaluate action {}
        if (← get).skip ≠ .return_ true then modify fun s => { s with status := status }
        runTrapsOf e status rest

def runTraps (e : Engine) : Act Unit := do
  let s ← get
  if s.latest.isNone ∨ s.pending = [] then return
  let status := s.savedStatus.getD s.status
  set { s with savedStatus := some status, latest := none }
  runTrapsOf e status (s.pending.mergeSort fun a b => a ≤ b)
  modify fun t => { t with savedStatus := s.savedStatus }

/-- The number of the signal that a text names, by number or name, from `least` on. -/
def signalNumber? (least : Nat) (t : Text) : Option Nat :=
  match Text.toNat? t with
  | some n => if n < SignalNumber.bound then some n else none
  | none =>
    let upper (t : Text) : Text := t.map fun b => if ByteClass.isLower b then b - 32 else b
    ((List.range SignalNumber.bound).drop least).find? fun n =>
      upper (SignalNumber.name n) = upper t

end ProviderHost.Shell.Act
