import ProviderHost.Lifecycle.Instance

/-!
# Waiting for a provider to become healthy

The wait goes in rounds. Each round makes a probe; after one that failed it asks whether the
process lives and reads the clock. The wait ends with the first round that passes, finds the
process dead, or reaches the deadline; otherwise it sleeps, never beyond the deadline.
-/

namespace ProviderHost

inductive AwaitVerdict where
  | healthy
  | exited
  | timedOut
  deriving DecidableEq, Repr

structure AwaitRound where
  healthy : Bool
  alive : Bool
  clock : Nat
  deriving DecidableEq, Repr

namespace AwaitRound

def verdict? (deadline : Nat) (r : AwaitRound) : Option AwaitVerdict :=
  if r.healthy then some .healthy
  else if ¬ r.alive then some .exited
  else if deadline ≤ r.clock then some .timedOut
  else none

def pause (interval deadline : Nat) (r : AwaitRound) : Nat := min interval (deadline - r.clock)

end AwaitRound

namespace Instance

variable {κ : Type} [Kernel κ]

def awaitRound (s : Settings) (i : Instance) (j : Journal) (k : κ) :
    AwaitRound × Instance × Journal × κ :=
  match i.probe s k with
  | (p, i, k) =>
    let j := j.note p.note
    if p.healthy then (⟨true, true, Kernel.now k⟩, i, j, k)
    else
      match i.isAlive k with
      | (alive, i, k) => (⟨false, alive, Kernel.now k⟩, i, j, k)

theorem awaitRound_clock (s : Settings) (i : Instance) (j : Journal) (k : κ) :
    (i.awaitRound s j k).1.clock = Kernel.now (i.awaitRound s j k).2.2.2 := by
  unfold awaitRound
  simp only
  split <;> rfl

theorem now_le_awaitRound (s : Settings) (i : Instance) (j : Journal) (k : κ) :
    Kernel.now k ≤ Kernel.now (i.awaitRound s j k).2.2.2 := by
  have h := now_le_probe s i k
  unfold awaitRound
  simp only
  split
  · exact h
  · exact Nat.le_trans h (now_le_isAlive _ _)

theorem verdict?_eq_none {deadline : Nat} {r : AwaitRound} (h : r.verdict? deadline = none) :
    r.clock < deadline := by
  unfold AwaitRound.verdict? at h
  split at h
  · cases h
  · split at h
    · cases h
    · split at h
      · cases h
      · omega

def awaitUntil (s : Settings) (deadline : Nat) (i : Instance) (j : Journal) (k : κ) :
    AwaitVerdict × Instance × Journal × κ :=
  match _hr : i.awaitRound s j k with
  | (r, i', j', k') =>
    match _hv : r.verdict? deadline with
    | some verdict => (verdict, i', j', k')
    | none => awaitUntil s deadline i' j' (Kernel.sleep (r.pause s.probeInterval deadline) k')
termination_by deadline - Kernel.now k
decreasing_by
  have h₁ := now_le_awaitRound s i j k
  have h₂ := awaitRound_clock s i j k
  have h₃ := Kernel.now_lt_sleep (r.pause s.probeInterval deadline) k'
  rw [‹i.awaitRound s j k = _›] at h₁ h₂
  have h₄ := verdict?_eq_none ‹r.verdict? deadline = none›
  simp only at h₁ h₂
  omega

/-- Waits for the provider to become healthy, for the length of the probe window. -/
def awaitHealthy (s : Settings) (i : Instance) (j : Journal) (k : κ) :
    AwaitVerdict × Instance × Journal × κ :=
  i.awaitUntil s (Kernel.now k + s.probeWindow) j k

end Instance

end ProviderHost
