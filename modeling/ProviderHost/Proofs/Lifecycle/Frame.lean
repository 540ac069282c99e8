import ProviderHost.Lifecycle.Controller

/-!
# What working on an instance changes

Asking after the process and ending it change the handle on the process and nothing else of the
instance; reading, asking to shut down and closing change the connection and the output. The
stage is changed by `transition` alone, and the monitor by its own steps.
-/

namespace ProviderHost.Instance

variable {δ κ : Type}

theorem transition_frame [Document δ] (site : Site δ) (next : Lifecycle) (i : Instance)
    (w : World κ) : (i.transition site next w).1 = { i with stage := next } := by
  unfold transition
  split
  · rename_i same
    rw [← same]
  · rfl

variable [Kernel κ]

/-! ### The process -/

theorem isAlive_frame (i : Instance) (k : κ) : ∃ c, (i.isAlive k).2.1 = { i with child := c } := by
  unfold isAlive
  split
  · exact ⟨i.child, rfl⟩
  · exact ⟨_, rfl⟩

theorem probeUrl_frame (s : Settings) (i : Instance) (u : Url) (k : κ) :
    (i.probeUrl s u k).2.1 = i := by
  unfold probeUrl
  split <;> rfl

theorem probe_frame (s : Settings) (i : Instance) (k : κ) :
    ∃ c, (i.probe s k).2.1 = { i with child := c } := by
  obtain ⟨c, asked⟩ := i.isAlive_frame k
  unfold probe
  split
  · split
    · rename_i i' k' alive
      exact ⟨c, by rw [alive] at asked; exact asked⟩
    · rename_i i' k' alive
      rw [alive] at asked
      split
      · exact ⟨c, asked⟩
      · split
        · exact ⟨c, asked⟩
        · exact ⟨c, (probeUrl_frame s i' _ k').trans asked⟩
  · split
    · exact ⟨i.child, rfl⟩
    · exact ⟨i.child, probeUrl_frame s i _ k⟩

theorem checkAlive_frame (i : Instance) (w : World κ) :
    ∃ c, (i.checkAlive w).2.1 = { i with child := c } := i.isAlive_frame w.kernel

theorem checkHealth_frame (s : Settings) (i : Instance) (w : World κ) :
    ∃ c, (i.checkHealth s w).2.1 = { i with child := c } := i.probe_frame s w.kernel

theorem endProcess_frame (s : Settings) (i : Instance) (w : World κ) :
    ∃ c, (i.endProcess s w).1 = { i with child := c } := by
  unfold endProcess
  split
  · exact ⟨i.child, rfl⟩
  · exact ⟨_, rfl⟩

theorem releaseChild_frame (i : Instance) (w : World κ) :
    ∃ c, (i.releaseChild w).1 = { i with child := c } := by
  unfold releaseChild
  split
  · exact ⟨i.child, rfl⟩
  · exact ⟨_, rfl⟩

/-! ### The connection -/

omit [Kernel κ] in
theorem absorb_frame (i : Instance) (j : Journal) (events : List ReaderEvent) :
    ∃ r, (i.absorb j events).1 = { i with ring := r } := by
  induction events generalizing i j with
  | nil => exact ⟨i.ring, rfl⟩
  | cons event events ih =>
    cases event with
    | line stream text =>
      obtain ⟨r, kept⟩ := ih { i with ring := i.ring.append stream text } _
      exact ⟨r, kept⟩
    | note message => exact ih i _

theorem readOutput_frame (decode : Text → Frame) (i : Instance) (j : Journal) (k : κ) :
    ∃ t r, (i.readOutput decode j k).1 = { i with transport := t, ring := r } := by
  unfold readOutput
  split
  · rename_i c t child transport
    split
    · exact ⟨i.transport, i.ring, rfl⟩
    · exact ⟨_, absorb_frame _ _ _⟩
  · exact ⟨i.transport, i.ring, rfl⟩

theorem readLines_frame (site : Site δ) (i : Instance) (w : World κ) :
    ∃ t r, (i.readLines site w).1 = { i with transport := t, ring := r } :=
  i.readOutput_frame site.decode w.journal w.kernel

theorem dismiss_frame (s : Settings) (i : Instance) (w : World κ) :
    ∃ f, (i.dismiss s w).1 = { i with transport := i.transport.map f } := by
  have unchanged : i = { i with transport := i.transport.map fun t => t } := by
    rw [Option.map_id']
  unfold dismiss
  split
  · split
    · split <;> exact ⟨_, rfl⟩
    · exact ⟨_, unchanged⟩
  · exact ⟨_, unchanged⟩

theorem closeTransport_frame (i : Instance) (j : Journal) (k : κ) :
    ∃ r, (i.closeTransport j k).1 =
      { i with transport := i.transport.map fun t => t.close.1, ring := r } := by
  unfold closeTransport
  split
  · rename_i absent
    exact ⟨i.ring, by rw [absent, Option.map_none, ← absent]⟩
  · rename_i t present
    obtain ⟨r, kept⟩ := absorb_frame { i with transport := some t.close.1 } j t.close.2
    refine ⟨r, ?_⟩
    rw [present, Option.map_some]
    split
    rename_i t' events closing
    split
    rename_i i' j' absorbed
    rw [closing] at kept ⊢
    rw [absorbed] at kept
    split
    · split <;> exact kept
    · exact kept

theorem disconnect_frame (i : Instance) (w : World κ) :
    ∃ r, (i.disconnect w).1 =
      { i with transport := i.transport.map fun t => t.close.1, ring := r } :=
  i.closeTransport_frame w.journal w.kernel

/-! ### An attempt to start -/

/-- Two states of an instance between which it was only brought up. -/
structure SameLife (i j : Instance) : Prop where
  id : j.id = i.id
  kind : j.kind = i.kind
  stage : j.stage = i.stage
  monitor : j.monitor = i.monitor

omit [Kernel κ] in
theorem SameLife.refl (i : Instance) : SameLife i i := ⟨rfl, rfl, rfl, rfl⟩

theorem SameLife.trans {i j l : Instance} (first : SameLife i j) (second : SameLife j l) :
    SameLife i l :=
  ⟨second.id.trans first.id, second.kind.trans first.kind, second.stage.trans first.stage,
    second.monitor.trans first.monitor⟩

theorem SameLife.of_child {i j : Instance} (changed : ∃ c, j = { i with child := c }) :
    SameLife i j := by
  obtain ⟨c, rfl⟩ := changed
  exact ⟨rfl, rfl, rfl, rfl⟩

omit [Kernel κ] in
theorem connectProcess_life (s : Settings) (d : Definition) (c : Child) (i : Instance)
    (w : World κ) : SameLife i (i.connectProcess s d c w).2.1 := by
  unfold connectProcess
  dsimp only
  split <;> exact ⟨rfl, rfl, rfl, rfl⟩

theorem connect_life (site : Site δ) (d : Definition) (i : Instance) (w : World κ) :
    SameLife i (i.connect site d w).2.1 := by
  unfold connect
  split
  · unfold launchProcess
    dsimp only
    split
    · exact .refl i
    · split
      · exact .refl i
      · exact connectProcess_life site.settings d _ i _
  · unfold connectNetwork
    dsimp only
    split <;> exact ⟨rfl, rfl, rfl, rfl⟩

theorem explainSilence_life (cause : Fault) (i : Instance) (w : World κ) :
    SameLife i (i.explainSilence cause w).2.1 := by
  unfold explainSilence
  split
  · exact .refl i
  · split <;> exact ⟨rfl, rfl, rfl, rfl⟩

theorem greet_life (site : Site δ) (i : Instance) (w : World κ) :
    SameLife i (i.greet site w).2.1 := by
  unfold greet
  split
  · exact .refl i
  · split
    · exact ⟨rfl, rfl, rfl, rfl⟩
    · rename_i cause k _
      obtain ⟨t, r, read⟩ := i.readLines_frame site { w with kernel := k }
      have life : SameLife i (i.readLines site { w with kernel := k }).1 := by
        rw [read]
        exact ⟨rfl, rfl, rfl, rfl⟩
      exact life.trans (explainSilence_life cause _ _)

theorem awaitRound_frame (s : Settings) (i : Instance) (j : Journal) (k : κ) :
    ∃ c, (i.awaitRound s j k).2.1 = { i with child := c } := by
  obtain ⟨c, probed⟩ := i.probe_frame s k
  unfold awaitRound
  generalize i.probe s k = found at probed ⊢
  obtain ⟨p, i', k'⟩ := found
  cases probed
  dsimp only
  split
  · exact ⟨c, rfl⟩
  · exact isAlive_frame { i with child := c } k'

theorem awaitUntil_of_round {s : Settings} {deadline : Nat} {i i' : Instance} {j j' : Journal}
    {k k' : κ} {r : AwaitRound} (round : i.awaitRound s j k = (r, i', j', k')) :
    i.awaitUntil s deadline j k =
      match r.verdict? deadline with
      | some verdict => (verdict, i', j', k')
      | none =>
        i'.awaitUntil s deadline j' (Kernel.sleep (r.pause s.probeInterval deadline) k') := by
  rw [awaitUntil]
  split
  rename_i h
  rw [round] at h
  cases h
  split <;> rename_i verdict <;> rw [verdict]

theorem awaitUntil_frame (s : Settings) (deadline : Nat) (i : Instance) (j : Journal) (k : κ) :
    ∃ c, (i.awaitUntil s deadline j k).2.1 = { i with child := c } := by
  induction i, j, k using @awaitUntil.induct κ _ s deadline with
  | case1 i j k r i' j' k' round verdict ended =>
    have kept := i.awaitRound_frame s j k
    rw [round] at kept
    rw [awaitUntil_of_round round, ended]
    exact kept
  | case2 i j k r i' j' k' round goesOn ih =>
    obtain ⟨c, kept⟩ := i.awaitRound_frame s j k
    rw [round] at kept
    cases kept
    rw [awaitUntil_of_round round, goesOn]
    exact ih

theorem establish_life (site : Site δ) (d : Definition) (i : Instance) (w : World κ) :
    SameLife i (i.establish site d w).2.1 := by
  have connected := i.connect_life site d w
  unfold establish
  split
  · rename_i cause i' w' h
    rw [h] at connected
    exact connected
  · rename_i note i₁ w₁ h₁
    rw [h₁] at connected
    have greeted := connected.trans (i₁.greet_life site w₁)
    split
    · rename_i cause i' w' h
      rw [h] at greeted
      exact greeted
    · rename_i i₂ w₂ h₂
      rw [h₂] at greeted
      have ready : SameLife i (i₂.awaitReady site.settings w₂).2.1 :=
        greeted.trans (.of_child (i₂.awaitUntil_frame site.settings _ w₂.journal w₂.kernel))
      split <;> rename_i h <;> rw [h] at ready <;> exact ready

theorem attempt_started [Document δ] {site : Site δ} {d : Definition} {w w' : World κ} {note : Text}
    {i : Instance} (started : attempt site d w = (.ok note, i, w')) :
    i.id = d.id ∧ i.kind = d.kind ∧ i.stage = .running ∧ i.monitor = {} := by
  unfold attempt at started
  have fresh := transition_frame site .starting (ofDefinition site.settings d) w
  split at started
  rename_i i₀ w₀ h₀
  rw [h₀] at fresh
  have life := i₀.establish_life site d w₀
  split at started
  · cases started
  · rename_i note' i₁ w₁ h₁
    rw [h₁] at life
    have running := transition_frame site .running i₁ w₁
    cases h₂ : i₁.transition site .running w₁ with
    | mk i₂ w₂ =>
      rw [h₂] at started running
      cases started
      subst fresh running
      exact ⟨life.id, life.kind, rfl, life.monitor⟩

end ProviderHost.Instance
