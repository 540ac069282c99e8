import ProviderHost.System.Perform

/-!
# Turns and time

Every process that can go on gets its turns, in the order in which they were started, and makes
calls until it has to wait or its turn is over. The clock moves only while somebody waits.
-/

namespace ProviderHost.System

/-- Runs a process for at most `turn` calls; answers how many of them are left. -/
def runProcess (turn pid : Nat) (sys : System) : Nat × System :=
  match turn, sys.process? pid with
  | 0, _ => (0, sys)
  | turn + 1, some p =>
    match p.status with
    | .running rest =>
      match p.doom with
      | some number => (turn, sys.finish pid (.signalled number))
      | none =>
        if p.stopped then (turn + 1, sys)
        else
          match sys.step p rest with
          | some sys => runProcess turn pid sys
          | none => (turn + 1, sys.setProcess { p with waits := true })
    | .dead _ => (turn + 1, sys)
  | turn + 1, none => (turn + 1, sys)

/-- How many calls a process makes before the next one has its turn. -/
def turn : Nat := 500

/-- Every process has a turn; answers how many calls they made. -/
def round (sys : System) : Nat × System :=
  (sys.processes.map (·.pid)).foldl
    (fun (made, sys) pid =>
      match runProcess turn pid sys with
      | (left, sys) => (made + (turn - left), sys))
    (0, sys)

/-- Lets the processes run until all of them wait or `calls` calls were made. -/
def settle (calls : Nat) (sys : System) : System :=
  match round sys with
  | (made, sys) => if _h : 0 < made ∧ made < calls then settle (calls - made) sys else sys
termination_by calls
decreasing_by omega

/-- How many calls are made in a millisecond. -/
def callsPerTick : Nat := 4000

/-- How many calls are made while the host is busy with something else. -/
def callsPerRequest : Nat := 20000

/-- Lets the processes run while the host turns to something else. -/
def proceed (sys : System) : System := sys.settle callsPerRequest

def tick (sys : System) : System := { sys with clock := sys.clock + 1 }.settle callsPerTick

def elapse : Nat → System → System
  | 0, sys => sys
  | n + 1, sys => elapse n sys.tick

/-- Time passes until something holds, for at most `limit` milliseconds. -/
def elapseUntil (done : System → Bool) : Nat → System → System
  | 0, sys => sys
  | limit + 1, sys => if done sys then sys else elapseUntil done limit sys.tick

end ProviderHost.System
