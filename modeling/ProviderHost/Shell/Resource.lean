import ProviderHost.Shell.Setting

/-!
# What a process may do and has done

The permissions that new files lack, the limits of a process, and the time that it has taken.
-/

namespace ProviderHost.Shell

namespace Mask

def granted (now : Nat) (letter : UInt8) : Option Nat :=
  if letter = 114 then some 4
  else if letter = 119 then some 2
  else if letter = 120 then some 1
  else if letter = 117 then some (now >>> 6)
  else if letter = 103 then some (now >>> 3)
  else if letter = 111 then some now
  else if letter = 88 then some (if now &&& 0o111 = 0 then 0 else 1)
  else if letter = 115 then some 0
  else none

/-- Whose permissions a letter speaks of: a bit for each. -/
def whose (letter : UInt8) : Option Nat :=
  if letter = 97 then some 0o111
  else if letter = 117 then some 0o100
  else if letter = 103 then some 0o010
  else if letter = 111 then some 0o001
  else none

def letters (meaning : UInt8 → Option Nat) (bits : Nat) : Text → Nat × Text
  | [] => (bits, [])
  | b :: rest =>
    match meaning b with
    | some n => letters meaning (bits ||| n) rest
    | none => (bits, b :: rest)

def full : Nat := 0o777

/-- The permissions that a change by letters grants; `now` are those granted before it. -/
def change? (now : Nat) : Nat → Nat → Nat → Text → Option Nat
  | 0, _, _, _ => none
  | _, granted, _, [] => some granted
  | n + 1, allowed, positions, t =>
    match letters whose positions t with
    | (positions, t) =>
      let positions := if positions = 0 then 0o111 else positions
      match t with
      | [] => some allowed
      | sign :: t =>
        match letters (granted now) 0 t with
        | (bits, t) =>
          let bits := (bits &&& 7) * positions
          let apply (allowed : Nat) : Option Nat :=
            match t with
            | 44 :: t => change? now n allowed 0 t
            | b :: t =>
              if b = 43 ∨ b = 45 ∨ b = 61 then change? now n allowed positions (b :: t) else none
            | [] => some allowed
          if sign = 43 then apply (allowed ||| bits)
          else if sign = 45 then apply (allowed &&& (full ^^^ bits))
          else if sign = 61 then apply (bits ||| (allowed &&& (full ^^^ (positions * 7))))
          else none

def shown (granted : Nat) : Text :=
  let part (n : Nat) : Text :=
    (if n &&& 4 = 0 then [] else [114]) ++ (if n &&& 2 = 0 then [] else [119]) ++
      (if n &&& 1 = 0 then [] else [120])
  "u=" ++ part (granted >>> 6) ++ ",g=" ++ part (granted >>> 3) ++ ",o=" ++ part granted

def digits (mask : Nat) : Text :=
  let ds := (Nat.toDigits 8 mask).map fun c => c.toNat.toUInt8
  List.replicate (4 - ds.length) 48 ++ ds

def ofDigits? (t : Text) : Option Nat :=
  t.foldlM (fun n b => if 48 ≤ b ∧ b < 56 then some (n * 8 + (b.toNat - 48)) else none) 0

end Mask

structure ToldLimit where
  letter : UInt8
  name : Text
  resource : Resource
  unit : Nat

namespace ToldLimit

def fileSize : ToldLimit := ⟨102, "file(blocks)", .fileSize, 512⟩

def all : List ToldLimit :=
  [⟨116, "time(seconds)", .processorTime, 1⟩, fileSize, ⟨100, "data(kbytes)", .dataSize, 1024⟩,
    ⟨115, "stack(kbytes)", .stackSize, 1024⟩, ⟨99, "coredump(blocks)", .dumpSize, 512⟩,
    ⟨109, "memory(kbytes)", .residentMemory, 1024⟩,
    ⟨108, "locked memory(kbytes)", .lockedMemory, 1024⟩, ⟨112, "process", .processes, 1⟩,
    ⟨110, "nofiles", .handles, 1⟩, ⟨118, "vmemory(kbytes)", .addressSpace, 1024⟩,
    ⟨119, "locks", .fileLocks, 1⟩, ⟨114, "rtprio", .priority, 1⟩]

def shown (t : ToldLimit) : Option Nat → Text
  | none => "unlimited"
  | some n => Text.ofNat (n / t.unit)

end ToldLimit

namespace Act

/-- Shows or sets the permissions that new files lack. -/
def umask (args : List Text) : Act Nat := do
  let (given, rest) ← options "S" args
  let old ← call (.mask 0)
  let _ ← call (.mask old)
  match rest with
  | [] =>
    print ((if given = [] then Mask.digits old else Mask.shown (Mask.full ^^^ old)) ++ "\n")
    return 0
  | t :: _ =>
    let new : Nat ← do
      if t.head?.any Byte.isDigit then
        match Mask.ofDigits? t with
        | some n => pure n
        | none => refuseNumber t
      else
        let now := Mask.full ^^^ old
        match Mask.change? now (t.length + 1) now 0 t with
        | some n => pure (Mask.full ^^^ n)
        | none => fail ("Illegal mode: " ++ t)
    let _ ← call (.mask (new &&& Mask.full))
    return 0

def ulimit (args : List Text) : Act Nat := do
  let (given, rest) ← options "HSatfdscmlpnvwr" args
  let ways : Text := given.filterMap fun g =>
    if g.letter = 72 ∨ g.letter = 83 then some g.letter else none
  let way := ways.getLast?
  let all := given.any (·.letter == 97)
  let what := (given.filter fun g => ¬ (Text.ofString "HSa").contains g.letter).getLast?
  let letter := (what.map (·.letter)).getD 102
  match rest with
  | [] =>
    for t in ToldLimit.all do
      let l ← call (.limit t.resource)
      let value := t.shown (if way = some 72 then l.hard else l.soft)
      if all then print (padRight 20 t.name ++ " " ++ value ++ "\n")
      else if t.letter = letter then print (value ++ "\n")
    return 0
  | value :: more =>
    if all ∨ more ≠ [] then fail "too many arguments"
    let t := (ToldLimit.all.find? (·.letter = letter)).getD ToldLimit.fileSize
    let value : Option Nat ← do
      if value = "unlimited" then pure none
      else if value.all Byte.isDigit then pure (some (Text.digitsValue value * t.unit))
      else fail "bad number"
    let l ← call (.limit t.resource)
    let new : Limit :=
      { soft := if way = some 72 then l.soft else value
        hard := if way = some 83 then l.hard else value }
    match ← call (.setLimit t.resource new) with
    | .ok _ => return 0
    | .error cause => fail ("error setting limit (" ++ cause.message ++ ")")

/-- Tells how much time the shell and its children have taken, which is too little to show. -/
def times : Act Nat := do
  print "0m0.000000s 0m0.000000s\n0m0.000000s 0m0.000000s\n"
  return 0

end Act

end ProviderHost.Shell
