import ProviderHost.Shell.Binary64
import ProviderHost.System.Call

/-!
# A program that sleeps

It sleeps for the sum of the times that its arguments name, each a number with the unit behind
it: seconds, unless `m`, `h` or `d` says otherwise. All that it is told about itself is taken for
an option it does not know.
-/

namespace ProviderHost.Sleep

/-- How many milliseconds a unit has. -/
def unit? : Text → Option Nat
  | [] => some 1000
  | [c] =>
    if c = 115 then some 1000
    else if c = 109 then some 60000
    else if c = 104 then some 3600000
    else if c = 100 then some 86400000
    else none
  | _ => none

def forever : Nat := 1000000000000000

/-- The time that an argument names, in milliseconds; a fraction of one counts as a whole. -/
def duration? (t : Text) : Option Nat :=
  let r := Shell.Binary64.read t
  match r.found, r.value with
  | true, .finite negative m e =>
    if negative ∧ m ≠ 0 then none
    else
      (unit? r.rest).map fun unit =>
        let (num, den) := Shell.scaled (m * unit) 1 2 e
        min forever ((num + (den - 1)) / den)
  | true, .infinite false => (unit? r.rest).map fun _ => forever
  | _, _ => none

def badOption? : Text → Option Text
  | 45 :: 45 :: name => some ("unrecognized option '--" ++ name ++ "'")
  | 45 :: c :: _ => some ("invalid option -- '" ++ [c] ++ "'")
  | _ => none

/-- The arguments that are no options, two dashes being the end of these; or what is wrong with
the first option. -/
def operands : List Text → Except Text (List Text)
  | [] => .ok []
  | a :: rest =>
    if a = [45, 45] then .ok rest
    else
      match badOption? a with
      | some what => .error what
      | none => (operands rest).map (a :: ·)

def complain (name : Text) (whats : List Text) : Program :=
  let lines : Text := whats.flatMap fun what => name ++ ": " ++ what ++ "\n"
  .say 2 (lines ++ "Try '" ++ name ++ " --help' for more information.\n") (.exit 1)

def start (args : List Text) : Program :=
  let name := args.headD "sleep"
  match operands args.tail with
  | .error what => complain name [what]
  | .ok [] => complain name ["missing operand"]
  | .ok times =>
    match times.filter fun t => (duration? t).isNone with
    | [] =>
      let total := (times.filterMap duration?).foldl (· + ·) 0
      .call .clock fun now => .call (.sleepUntil (now + total)) fun _ => .exit 0
    | wrong => complain name (wrong.map fun t => "invalid time interval '" ++ t ++ "'")

end ProviderHost.Sleep
