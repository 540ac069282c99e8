import ProviderHost.Proofs.Child.Dealing
import ProviderHost.Proofs.Lifecycle.Frame

/-!
# What the host finds out about a provider

The host asks whether a process has exited, whether a provider is well and whether an instance is
in use. The answers are given here by what the system says when it is asked.
-/

namespace ProviderHost

namespace Child

variable {κ : Type} [Kernel κ]

/-- A process has not exited: it was not seen gone, and is found alive now. -/
def IsUp (c : Child) (k : κ) : Prop := c.reaped = false ∧ (Kernel.poll c.pid k).1 = .alive

theorem isRunning_eq_true {c : Child} {k : κ} : (c.isRunning k).1 = true ↔ c.IsUp k := by
  unfold IsUp
  cases held : c.reaped with
  | true => simp [isRunning_of_reaped held]
  | false => simp [isRunning_of_held held]

/-- The handle on a process that is found running is left as it is. -/
theorem isRunning_of_isUp {c : Child} {k : κ} (up : c.IsUp k) :
    c.isRunning k = (true, c, (Kernel.poll c.pid k).2) := by
  obtain ⟨held, alive⟩ := up
  rw [isRunning_of_held held, alive]
  rfl

end Child

namespace Instance

variable {κ : Type} [Kernel κ]

/-- The health endpoint answers that the provider is well. -/
def AnswersWell (s : Settings) (u : Url) (k : κ) : Prop :=
  ∃ status, (Kernel.healthStatus u s.healthPath s.probeRequestTimeout k).1 = .ok status ∧
    200 ≤ status ∧ status < 300

/-- A provider is well: its process has not exited, its peer is connected, and its health endpoint,
if it has one, answers well. For a network provider the endpoint alone decides. -/
structure IsWell (s : Settings) (i : Instance) (k : κ) : Prop where
  process : i.kind = .process → (∀ c, i.child = some c → c.IsUp k) ∧
    (∃ t, i.transport = some t ∧ t.connected) ∧
    ∀ u, i.baseUrl = some u → AnswersWell s u (i.isAlive k).2.2
  network : i.kind = .network → ∃ u, i.baseUrl = some u ∧ AnswersWell s u k

/-- An instance counts as live: it is not stopped, its process has not exited, if it has one, and
a network provider passes its probe. -/
structure IsLive (s : Settings) (i : Instance) (k : κ) : Prop where
  stage : i.stage ≠ .stopped
  running : ∀ c, i.child = some c → c.IsUp k
  well : i.kind = .network → ∃ u, i.baseUrl = some u ∧ AnswersWell s u (i.isAlive k).2.2

theorem isAlive_eq_true {i : Instance} {k : κ} :
    (i.isAlive k).1 = true ↔ ∀ c, i.child = some c → c.IsUp k := by
  unfold isAlive
  cases i.child with
  | none => simp
  | some c => simpa using Child.isRunning_eq_true

theorem isAlive_of_isUp {i : Instance} {k : κ} (running : ∀ c, i.child = some c → c.IsUp k) :
    i.isAlive k = (true, i, (i.isAlive k).2.2) := by
  unfold isAlive
  cases held : i.child with
  | none => rfl
  | some c =>
    dsimp only
    rw [Child.isRunning_of_isUp (running c held)]
    simp only [← held]

theorem healthy_probeUrl {s : Settings} {i : Instance} {u : Url} {k : κ} :
    (i.probeUrl s u k).1.healthy = true ↔ AnswersWell s u k := by
  unfold probeUrl AnswersWell
  generalize Kernel.healthStatus u s.healthPath s.probeRequestTimeout k = asked
  obtain ⟨answer, k'⟩ := asked
  cases answer <;> simp

theorem healthy_probe_network {s : Settings} {i : Instance} {k : κ} (kind : i.kind = .network) :
    (i.probe s k).1.healthy = true ↔ ∃ u, i.baseUrl = some u ∧ AnswersWell s u k := by
  unfold probe
  rw [kind]
  cases i.baseUrl with
  | none => simp
  | some u => simpa using healthy_probeUrl

theorem isConnected_eq_true {i : Instance} :
    i.isConnected = true ↔ ∃ t, i.transport = some t ∧ t.connected := by
  unfold isConnected
  cases i.transport <;> simp

theorem healthy_probe_process {s : Settings} {i : Instance} {k : κ} (kind : i.kind = .process) :
    (i.probe s k).1.healthy = true ↔ (∀ c, i.child = some c → c.IsUp k) ∧
      (∃ t, i.transport = some t ∧ t.connected) ∧
      ∀ u, i.baseUrl = some u → AnswersWell s u (i.isAlive k).2.2 := by
  rw [← isConnected_eq_true]
  by_cases running : ∀ c, i.child = some c → c.IsUp k
  · have up := isAlive_of_isUp running
    unfold probe
    rw [kind]
    generalize i.isAlive k = asked at up ⊢
    obtain ⟨alive, j, k'⟩ := asked
    obtain ⟨rfl, rfl⟩ : alive = true ∧ j = i := by simpa using up
    cases connected : j.isConnected with
    | false => simp [connected]
    | true =>
      cases addressed : j.baseUrl with
      | none => simpa [connected, addressed] using running
      | some u => simpa [connected, addressed, healthy_probeUrl] using fun _ => running
  · have exited : (i.isAlive k).1 = false := by simpa using mt isAlive_eq_true.mp running
    unfold probe
    rw [kind]
    generalize i.isAlive k = asked at exited ⊢
    obtain ⟨alive, j, k'⟩ := asked
    cases exited
    exact ⟨nofun, fun well => absurd well.1 running⟩

theorem healthy_probe {s : Settings} {i : Instance} {k : κ} :
    (i.probe s k).1.healthy = true ↔ i.IsWell s k := by
  cases kind : i.kind with
  | process =>
    rw [healthy_probe_process kind]
    exact ⟨fun well => ⟨fun _ => well, by simp [kind]⟩, fun well => well.process kind⟩
  | network =>
    rw [healthy_probe_network kind]
    exact ⟨fun well => ⟨by simp [kind], fun _ => well⟩, fun well => well.network kind⟩

theorem probe_network (s : Settings) {i : Instance} (k : κ) (kind : i.kind = .network) :
    (i.probe s k).2.1 = i := by
  unfold probe
  rw [kind]
  cases i.baseUrl with
  | none => rfl
  | some u => exact i.probeUrl_frame s u k

theorem isLive_of_isUp {s : Settings} {i : Instance} {k : κ} (used : i.stage ≠ .stopped)
    (running : ∀ c, i.child = some c → c.IsUp k) :
    i.isLive s k =
      match i.kind with
      | .process => (true, none, i, (i.isAlive k).2.2)
      | .network =>
        ((i.probe s (i.isAlive k).2.2).1.healthy, (i.probe s (i.isAlive k).2.2).1.note,
          (i.probe s (i.isAlive k).2.2).2) := by
  have up := isAlive_of_isUp running
  unfold isLive
  rw [if_neg used]
  generalize i.isAlive k = asked at up ⊢
  obtain ⟨alive, j, k'⟩ := asked
  obtain ⟨rfl, rfl⟩ : alive = true ∧ j = i := by simpa using up
  cases kind : j.kind <;> simp only [kind]

theorem isLive_eq_true {s : Settings} {i : Instance} {k : κ} :
    (i.isLive s k).1 = true ↔ i.IsLive s k := by
  by_cases stopped : i.stage = .stopped
  · rw [isLive, if_pos stopped]
    exact ⟨nofun, fun live => absurd stopped live.stage⟩
  by_cases running : ∀ c, i.child = some c → c.IsUp k
  · rw [isLive_of_isUp stopped running]
    cases kind : i.kind with
    | process => exact ⟨fun _ => ⟨stopped, running, by simp [kind]⟩, fun _ => rfl⟩
    | network =>
      have probed := healthy_probe_network (s := s) (k := (i.isAlive k).2.2) kind
      exact ⟨fun well => ⟨stopped, running, fun _ => probed.mp well⟩,
        fun live => probed.mpr (live.well kind)⟩
  · have exited : (i.isAlive k).1 = false := by simpa using mt isAlive_eq_true.mp running
    rw [isLive, if_neg stopped]
    generalize i.isAlive k = asked at exited ⊢
    obtain ⟨alive, i', k'⟩ := asked
    cases exited
    exact ⟨nofun, fun live => absurd live.running running⟩

/-- Asking whether an instance is in use changes nothing of one that is. -/
theorem isLive_keeps {s : Settings} {i : Instance} {k : κ} (live : i.IsLive s k) :
    (i.isLive s k).2.2.1 = i := by
  rw [isLive_of_isUp live.stage live.running]
  cases kind : i.kind with
  | process => rfl
  | network => exact probe_network s _ kind

theorem isLive_frame (s : Settings) (i : Instance) (k : κ) :
    ∃ c, (i.isLive s k).2.2.1 = { i with child := c } := by
  obtain ⟨c, asked⟩ := i.isAlive_frame k
  unfold isLive
  split
  · exact ⟨i.child, rfl⟩
  · generalize i.isAlive k = answer at asked ⊢
    obtain ⟨alive, i', k'⟩ := answer
    cases asked
    cases alive with
    | false => exact ⟨c, rfl⟩
    | true =>
      dsimp only
      split
      · exact ⟨c, rfl⟩
      · obtain ⟨c', probed⟩ := { i with child := c }.probe_frame s k'
        exact ⟨c', probed⟩

end Instance

end ProviderHost
