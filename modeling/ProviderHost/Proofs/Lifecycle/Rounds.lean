import ProviderHost.Proofs.Lifecycle.Frame

/-!
# Rounds of a monitor

A round is over after as many steps as are left of it at most, whatever the process and the
health endpoint answer. So a monitor that was asked to stop is over once its round is done, and
whoever waits for it does not wait in vain.
-/

namespace ProviderHost

/-- Whether there is no monitor, or it has ended. -/
def MonitorPhase.isOver : MonitorPhase → Bool
  | .none | .ended => true
  | _ => false

/-- The most steps that are left of the round. -/
def MonitorPhase.remaining : MonitorPhase → Nat
  | .none | .waiting | .ended => 0
  | .looking => 4
  | .probing => 3
  | .judging _ => 2
  | .changing _ => 1
  | .abandoning => 2
  | .ending => 1

theorem MonitorPhase.isResting_of_remaining {phase : MonitorPhase} (done : phase.remaining = 0) :
    phase.isResting := by
  cases phase <;> simp_all [remaining, isResting]

namespace Instance

variable {δ κ : Type} [Document δ] [Kernel κ]

inductive Ticked (i : Instance) : Instance → Prop where
  | none (finished : i.monitor.phase.isOver) : Ticked i i
  | woken (phase : i.monitor.phase = .waiting) :
    Ticked i (i.inPhase (if i.monitor.stopping then .ended else .looking))
  | looked (phase : i.monitor.phase = .looking) (alive : Bool) (c : Option Child) :
    Ticked i ({ i with child := c }.inPhase (if alive then .probing else .abandoning))
  | probed (phase : i.monitor.phase = .probing) (healthy : Bool) (c : Option Child) :
    Ticked i ({ i with child := c }.inPhase (.judging healthy))
  | judged {healthy : Bool} {next : Lifecycle} (phase : i.monitor.phase = .judging healthy)
    (judged : i.stage.judge? healthy = some next) : Ticked i (i.inPhase (.changing next))
  | kept {healthy : Bool} (phase : i.monitor.phase = .judging healthy)
    (judged : i.stage.judge? healthy = .none) (due : Nat) :
    Ticked i { i with monitor := { i.monitor with phase := .waiting, due := due } }
  | changed {next : Lifecycle} (phase : i.monitor.phase = .changing next) (due : Nat) :
    Ticked i { i with stage := next, monitor := { i.monitor with phase := .waiting, due := due } }
  | abandoned (phase : i.monitor.phase = .abandoning) (ring : LogRing) :
    Ticked i ({ i with
      transport := i.transport.map fun (t : Transport) => t.close.1
      ring := ring }.inPhase .ending)
  | ended (phase : i.monitor.phase = .ending) : Ticked i ({ i with stage := .stopped }.inPhase .ended)

theorem monitorStep_ticked (site : Site δ) (i : Instance) (w : World κ) :
    Ticked i (i.monitorStep site w).1 := by
  unfold monitorStep
  cases phase : i.monitor.phase with
  | none | ended => exact .none (by rw [phase]; rfl)
  | waiting => exact .woken phase
  | looking =>
    obtain ⟨c, asked⟩ := i.checkAlive_frame w
    dsimp only
    generalize i.checkAlive w = answer at asked ⊢
    obtain ⟨alive, i', w'⟩ := answer
    cases asked
    cases alive with
    | false => exact .looked phase false c
    | true => exact .looked phase true c
  | probing =>
    obtain ⟨c, probed⟩ := i.checkHealth_frame site.settings w
    dsimp only
    generalize i.checkHealth site.settings w = answer at probed ⊢
    obtain ⟨healthy, i', w'⟩ := answer
    cases probed
    exact .probed phase healthy c
  | judging healthy =>
    dsimp only
    split
    · rename_i next judged
      exact .judged phase judged
    · rename_i judged
      exact .kept phase judged _
  | changing next =>
    have changed := i.transition_frame site next w
    dsimp only
    generalize i.transition site next w = made at changed ⊢
    obtain ⟨i', w'⟩ := made
    cases changed
    exact .changed phase _
  | abandoning =>
    obtain ⟨r, closed⟩ := i.disconnect_frame w
    dsimp only
    generalize i.disconnect w = made at closed ⊢
    obtain ⟨i', w'⟩ := made
    cases closed
    exact .abandoned phase r
  | ending =>
    have changed := i.transition_frame site .stopped w
    dsimp only
    generalize i.transition site .stopped w = made at changed ⊢
    obtain ⟨i', w'⟩ := made
    cases changed
    exact .ended phase

/-- What a step of the monitor leaves of an instance: a round gets shorter, a request to stop
stands, and there is a connection if there was one. -/
structure Advanced (i j : Instance) : Prop where
  shorter : i.monitor.phase.isResting = false →
    j.monitor.phase.remaining < i.monitor.phase.remaining
  stopping : j.monitor.stopping = i.monitor.stopping
  transport : j.transport.isSome = i.transport.isSome

theorem Ticked.advanced {i j : Instance} (ticked : Ticked i j) : Advanced i j := by
  cases ticked with
  | none finished =>
    refine ⟨fun busy => ?_, rfl, rfl⟩
    cases phase : i.monitor.phase <;> simp_all [MonitorPhase.isOver, MonitorPhase.isResting]
  | woken phase => exact ⟨by simp [phase, MonitorPhase.isResting], rfl, rfl⟩
  | looked phase alive c =>
    cases alive <;> exact ⟨by simp [phase, inPhase, MonitorPhase.remaining], rfl, rfl⟩
  | probed phase | judged phase | kept phase | changed phase | ended phase =>
    exact ⟨by simp [phase, inPhase, MonitorPhase.remaining], rfl, rfl⟩
  | abandoned phase ring =>
    exact ⟨by simp [phase, inPhase, MonitorPhase.remaining], rfl, by simp [inPhase]⟩

theorem monitorStep_advanced (site : Site δ) (i : Instance) (w : World κ) :
    Advanced i (i.monitorStep site w).1 := (monitorStep_ticked site i w).advanced

theorem monitorStep_of_over (site : Site δ) {i : Instance} (w : World κ)
    (finished : i.monitor.phase.isOver) : i.monitorStep site w = (i, w) := by
  unfold monitorStep
  cases phase : i.monitor.phase <;> simp_all [MonitorPhase.isOver]

theorem monitorSteps_preserves {P : Instance → Prop} (site : Site δ)
    (kept : ∀ i (w : World κ), P i → P (i.monitorStep site w).1) (n : Nat) {i : Instance}
    (w : World κ) (first : P i) : P (i.monitorSteps site n w).1 := by
  induction n generalizing i w with
  | zero => exact first
  | succ n ih =>
    unfold monitorSteps
    split
    · exact first
    · exact ih _ (kept i w first)

theorem monitorSteps_rests (site : Site δ) (n : Nat) (i : Instance) (w : World κ)
    (enough : i.monitor.phase.remaining ≤ n) :
    (i.monitorSteps site n w).1.monitor.phase.isResting := by
  induction n generalizing i w with
  | zero => exact MonitorPhase.isResting_of_remaining (Nat.le_zero.mp enough)
  | succ n ih =>
    unfold monitorSteps
    split
    · assumption
    · rename_i busy
      have shorter := (monitorStep_advanced site i w).shorter (by simpa using busy)
      exact ih _ _ (Nat.le_of_lt_succ (Nat.lt_of_lt_of_le shorter enough))

theorem finishRound_rests (site : Site δ) (i : Instance) (w : World κ) :
    (i.finishRound site w).1.monitor.phase.isResting := by
  refine monitorSteps_rests site roundLength i w ?_
  cases i.monitor.phase <;> simp [MonitorPhase.remaining, roundLength]

theorem joinMonitor_over (site : Site δ) (i : Instance) (w : World κ) :
    (i.joinMonitor site w).1.monitor.phase.isOver := by
  unfold joinMonitor
  have rests := finishRound_rests site { i with monitor := { i.monitor with stopping := true } } w
  have flagged := monitorSteps_preserves (P := fun i => i.monitor.stopping = true) site
    (fun i w asked => (monitorStep_advanced site i w).stopping.trans asked) roundLength
    (i := { i with monitor := { i.monitor with stopping := true } }) w rfl
  change (finishRound site _ w).1.monitor.stopping = true at flagged
  generalize finishRound site { i with monitor := { i.monitor with stopping := true } } w = made
    at rests flagged ⊢
  obtain ⟨j, w'⟩ := made
  dsimp only at rests flagged ⊢
  unfold monitorStep
  cases phase : j.monitor.phase with
  | none | ended => simp [phase, MonitorPhase.isOver]
  | waiting => simp [inPhase, flagged, MonitorPhase.isOver]
  | looking | probing | abandoning | ending | judging | changing =>
    rw [phase] at rests
    cases rests

theorem joinMonitor_transport (site : Site δ) (i : Instance) (w : World κ) :
    (i.joinMonitor site w).1.transport.isSome = i.transport.isSome := by
  unfold joinMonitor
  exact (monitorStep_advanced site _ _).transport.trans
    (monitorSteps_preserves (P := fun j => j.transport.isSome = i.transport.isSome) site
      (fun j w same => (monitorStep_advanced site j w).transport.trans same) roundLength w rfl)

end Instance

end ProviderHost
