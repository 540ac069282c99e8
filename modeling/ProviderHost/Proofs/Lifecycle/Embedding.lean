import ProviderHost.Lifecycle.Attempt
import ProviderHost.Proofs.Child.Embedding
import ProviderHost.Proofs.Lifecycle.Frame

/-!
# Instances in an embedded system

What is done to an instance in an embedded system is what is done to it in the system itself, and
the journal that grows there is the image of the one that grows here.
-/

namespace ProviderHost

variable {δ κ μ : Type} [Kernel κ] [Kernel μ]

namespace Embedding

variable (φ : Embedding κ μ)

/-- The world around the embedded system. -/
def world (w : World κ) : World μ := ⟨φ.kernel w.kernel, φ.journal w.journal, w.files⟩

theorem note_journal (message : Option Text) (j : Journal) :
    (φ.journal j).note message = φ.journal (j.note message) := by
  cases message with
  | none => rfl
  | some message => exact φ.report .debug message j

theorem report_port (p : PortArgument) (j : Journal) :
    p.report (φ.journal j) = φ.journal (p.report j) := by
  cases p with
  | absent | port n => rfl
  | invalid value => exact φ.report .warn _ j

theorem report_launch (resolved : Except LaunchFault Launch) (j : Journal) :
    Launch.report resolved (φ.journal j) = φ.journal (Launch.report resolved j) := by
  cases resolved with
  | error cause => rfl
  | ok launch =>
    unfold Launch.report
    dsimp only
    split
    · rfl
    · exact φ.report .warn _ j

theorem debug_world (message : Text) (w : World κ) :
    (φ.world w).debug message = φ.world (w.debug message) :=
  congrArg (World.mk _ · _) (φ.report .debug message w.journal)

theorem info_world (message : Text) (w : World κ) :
    (φ.world w).info message = φ.world (w.info message) :=
  congrArg (World.mk _ · _) (φ.report .info message w.journal)

theorem warn_world (message : Text) (w : World κ) :
    (φ.world w).warn message = φ.world (w.warn message) :=
  congrArg (World.mk _ · _) (φ.report .warn message w.journal)

theorem error_world (message : Text) (w : World κ) :
    (φ.world w).error message = φ.world (w.error message) :=
  congrArg (World.mk _ · _) (φ.report .error message w.journal)

end Embedding

theorem World.recordStatus_embed [Document δ] (φ : Embedding κ μ) (site : Site δ) (id : Text)
    (stage : Lifecycle) (w : World κ) :
    (φ.world w).recordStatus site id stage = φ.world (w.recordStatus site id stage) := by
  unfold recordStatus
  dsimp only [Embedding.world]
  generalize Store.recordStatus δ id stage.name w.files site.registry = noted
  obtain ⟨answer, files⟩ := noted
  cases answer with
  | ok => rfl
  | error cause => exact φ.debug_world _ { w with files := files }

namespace Instance

variable (φ : Embedding κ μ)

/-! ### Looking -/

theorem isAlive_embed (i : Instance) (k : κ) :
    i.isAlive (φ.kernel k) = onState (onState φ.kernel) (i.isAlive k) := by
  unfold isAlive
  cases i.child with
  | none => rfl
  | some c => simp only [onState, Child.isRunning_embed]

theorem probeUrl_embed (s : Settings) (i : Instance) (u : Url) (k : κ) :
    i.probeUrl s u (φ.kernel k) = onState (onState φ.kernel) (i.probeUrl s u k) := by
  unfold probeUrl
  rw [φ.healthStatus]
  generalize Kernel.healthStatus u s.healthPath s.probeRequestTimeout k = asked
  obtain ⟨answer, k'⟩ := asked
  cases answer <;> rfl

theorem probe_embed (s : Settings) (i : Instance) (k : κ) :
    i.probe s (φ.kernel k) = onState (onState φ.kernel) (i.probe s k) := by
  unfold probe
  cases i.kind with
  | process =>
    dsimp only
    rw [isAlive_embed]
    generalize i.isAlive k = asked
    obtain ⟨alive, i', k'⟩ := asked
    cases alive with
    | false => rfl
    | true =>
      simp only [onState]
      split
      · rfl
      · cases i'.baseUrl with
        | none => rfl
        | some u => exact probeUrl_embed φ s i' u k'
  | network =>
    cases i.baseUrl with
    | none => rfl
    | some u => exact probeUrl_embed φ s i u k

theorem isLive_embed (s : Settings) (i : Instance) (k : κ) :
    i.isLive s (φ.kernel k) = onState (onState (onState φ.kernel)) (i.isLive s k) := by
  unfold isLive
  split
  · rfl
  · rw [isAlive_embed]
    generalize i.isAlive k = asked
    obtain ⟨alive, i', k'⟩ := asked
    cases alive with
    | false => rfl
    | true =>
      simp only [onState, probe_embed]
      cases i'.kind <;> rfl

theorem checkAlive_embed (i : Instance) (w : World κ) :
    i.checkAlive (φ.world w) = onState (onState φ.world) (i.checkAlive w) := by
  simp only [checkAlive, Embedding.world, isAlive_embed, onState]

theorem checkHealth_embed (s : Settings) (i : Instance) (w : World κ) :
    i.checkHealth s (φ.world w) = onState (onState φ.world) (i.checkHealth s w) := by
  simp only [checkHealth, Embedding.world, probe_embed, φ.note_journal, onState]

theorem checkLive_embed (s : Settings) (i : Instance) (w : World κ) :
    i.checkLive s (φ.world w) = onState (onState φ.world) (i.checkLive s w) := by
  simp only [checkLive, Embedding.world, isLive_embed, φ.note_journal, onState]

/-! ### The connection -/

omit [Kernel κ] [Kernel μ] in
theorem absorb_embed [Kernel κ] [Kernel μ] (φ : Embedding κ μ) (i : Instance) (j : Journal)
    (events : List ReaderEvent) :
    i.absorb (φ.journal j) events = onState φ.journal (i.absorb j events) := by
  induction events generalizing i j with
  | nil => rfl
  | cons event events ih =>
    cases event with
    | line stream text =>
      simp only [absorb, ← ih]
      split
      · rfl
      · exact congrArg (absorb _ · events) (φ.report .debug _ j)
    | note message =>
      simp only [absorb, ← ih]
      exact congrArg (absorb i · events) (φ.report .debug message j)

theorem readOutput_embed (decode : Text → Frame) (i : Instance) (j : Journal) (k : κ) :
    i.readOutput decode (φ.journal j) (φ.kernel k) =
      onState (.map φ.journal φ.kernel) (i.readOutput decode j k) := by
  have readIf (isOpen : Bool) (pid : Nat) (s : Stream) (k : κ) :
      (if isOpen then Kernel.read pid s (φ.kernel k) else ([], φ.kernel k)) =
        onState φ.kernel (if isOpen then Kernel.read pid s k else ([], k)) := by
    split
    · exact φ.read pid s k
    · rfl
  unfold readOutput
  split
  · rename_i c t child transport
    split
    · rfl
    · rw [readIf]
      generalize (if t.reader.outOpen then Kernel.read c.pid .out k else ([], k)) = first
      obtain ⟨outs, k₁⟩ := first
      dsimp only [onState]
      rw [readIf]
      generalize (if t.reader.errOpen then Kernel.read c.pid .err k₁ else ([], k₁)) = second
      obtain ⟨errs, k₂⟩ := second
      simp only [onState, absorb_embed, Prod.map]
  · rfl

theorem closeTransport_embed (i : Instance) (j : Journal) (k : κ) :
    i.closeTransport (φ.journal j) (φ.kernel k) =
      onState (.map φ.journal φ.kernel) (i.closeTransport j k) := by
  unfold closeTransport
  cases i.transport with
  | none => rfl
  | some t =>
    simp only [absorb_embed, onState]
    split
    · split
      · rfl
      · simp only [φ.closeInput, φ.closeOutputs, Prod.map]
    · rfl

theorem disconnect_embed (i : Instance) (w : World κ) :
    i.disconnect (φ.world w) = onState φ.world (i.disconnect w) := by
  simp only [disconnect, Embedding.world, closeTransport_embed, onState, Prod.map]

theorem readLines_embed (site : Site δ) (i : Instance) (w : World κ) :
    i.readLines site (φ.world w) = onState φ.world (i.readLines site w) := by
  simp only [readLines, Embedding.world, readOutput_embed, onState, Prod.map]

/-! ### The monitor -/

variable [Document δ]

theorem transition_embed (site : Site δ) (next : Lifecycle) (i : Instance) (w : World κ) :
    i.transition site next (φ.world w) = onState φ.world (i.transition site next w) := by
  unfold transition
  split
  · rfl
  · rw [φ.info_world, World.recordStatus_embed]
    rfl

theorem awaitingRound_embed (s : Settings) (i : Instance) (w : World κ) :
    i.awaitingRound s (φ.world w) = i.awaitingRound s w := by
  simp only [awaitingRound, Embedding.world, φ.now]

theorem monitorStep_embed (site : Site δ) (i : Instance) (w : World κ) :
    i.monitorStep site (φ.world w) = onState φ.world (i.monitorStep site w) := by
  unfold monitorStep
  cases i.monitor.phase with
  | none | ended | waiting => rfl
  | looking =>
    dsimp only
    rw [checkAlive_embed]
    generalize i.checkAlive w = asked
    obtain ⟨alive, i', w'⟩ := asked
    cases alive with
    | true => rfl
    | false => simp only [onState, φ.warn_world]
  | probing => simp only [checkHealth_embed, onState]
  | judging healthy =>
    dsimp only
    split
    · rfl
    · simp only [awaitingRound_embed, onState]
  | changing next => simp only [transition_embed, awaitingRound_embed, onState]
  | abandoning => simp only [disconnect_embed, onState]
  | ending => simp only [transition_embed, onState]

theorem monitorSteps_embed (site : Site δ) (n : Nat) (i : Instance) (w : World κ) :
    i.monitorSteps site n (φ.world w) = onState φ.world (i.monitorSteps site n w) := by
  induction n generalizing i w with
  | zero => rfl
  | succ n ih =>
    unfold monitorSteps
    split
    · rfl
    · simp only [monitorStep_embed, onState]
      exact ih _ _

theorem monitorRound_embed (site : Site δ) (i : Instance) (w : World κ) :
    i.monitorRound site (φ.world w) = onState φ.world (i.monitorRound site w) := by
  have clock : Kernel.now (φ.world w).kernel = Kernel.now w.kernel := φ.now w.kernel
  unfold monitorRound
  rw [clock]
  split
  · rfl
  · simp only [monitorStep_embed, finishRound, onState]
    exact monitorSteps_embed φ site _ _ _

theorem joinMonitor_embed (site : Site δ) (i : Instance) (w : World κ) :
    i.joinMonitor site (φ.world w) = onState φ.world (i.joinMonitor site w) := by
  simp only [joinMonitor, finishRound, monitorSteps_embed, onState]
  exact monitorStep_embed φ site _ _

/-! ### Ending -/

omit [Document δ] in
theorem reportDismissal_embed (i : Instance) (f : Fault) (w : World κ) :
    reportDismissal i f (φ.world w) = φ.world (reportDismissal i f w) := by
  unfold reportDismissal
  cases i.transport with
  | none => exact φ.debug_world _ w
  | some t => simp only [φ.warn_world, φ.debug_world]

omit [Document δ] in
theorem dismiss_embed (s : Settings) (i : Instance) (w : World κ) :
    i.dismiss s (φ.world w) = onState φ.world (i.dismiss s w) := by
  unfold dismiss
  cases i.peer? with
  | none => rfl
  | some peer =>
    dsimp only
    split
    · dsimp only [Embedding.world]
      rw [φ.dismiss]
      generalize Kernel.dismiss peer s.shutdownTimeout w.kernel = asked
      obtain ⟨answer, k⟩ := asked
      cases answer with
      | ok => rfl
      | error f => exact congrArg (Prod.mk _) (reportDismissal_embed φ i f { w with kernel := k })
    · rfl

omit [Document δ] in
theorem endProcess_embed (s : Settings) (i : Instance) (w : World κ) :
    i.endProcess s (φ.world w) = onState φ.world (i.endProcess s w) := by
  unfold endProcess
  cases i.child with
  | none => rfl
  | some c =>
    dsimp only [Embedding.world]
    rw [Child.shutDown_embed]
    generalize c.shutDown s.stopGrace w.kernel = ended
    obtain ⟨ending, c', k⟩ := ended
    cases ending <;> simp only [onState, Ending.report, Journal.warn, Journal.error,
      φ.report, Embedding.world]

theorem tearDown_embed (site : Site δ) (graceful : Bool) (i : Instance) (w : World κ) :
    i.tearDown site graceful (φ.world w) = onState φ.world (i.tearDown site graceful w) := by
  unfold tearDown
  rw [joinMonitor_embed]
  generalize i.joinMonitor site w = joined
  obtain ⟨i', w'⟩ := joined
  have dismissed : (if graceful then i'.dismiss site.settings (φ.world w') else (i', φ.world w')) =
      onState φ.world (if graceful then i'.dismiss site.settings w' else (i', w')) := by
    split
    · exact dismiss_embed φ site.settings i' w'
    · rfl
  simp only [onState, dismissed, disconnect_embed]
  exact endProcess_embed φ site.settings _ _

theorem retire_embed (site : Site δ) (graceful : Bool) (last : Lifecycle) (i : Instance)
    (w : World κ) :
    i.retire site graceful last (φ.world w) = onState φ.world (i.retire site graceful last w) := by
  simp only [retire, tearDown_embed, onState]
  exact transition_embed φ site last _ _

omit [Document δ] in
theorem releaseChild_embed (i : Instance) (w : World κ) :
    i.releaseChild (φ.world w) = onState φ.world (i.releaseChild w) := by
  unfold releaseChild
  cases i.child with
  | none => rfl
  | some c => simp only [Embedding.world, Child.release_embed, onState]

theorem discard_embed (site : Site δ) (i : Instance) (w : World κ) :
    i.discard site (φ.world w) = onState φ.world (i.discard site w) := by
  simp only [discard, joinMonitor_embed, disconnect_embed, onState]
  exact releaseChild_embed φ _ _

/-! ### Starting -/

theorem connectProcess_embed (s : Settings) (d : Definition) (c : Child) (i : Instance)
    (w : World κ) :
    i.connectProcess s d c (φ.world w) =
      onState (onState φ.world) (i.connectProcess s d c w) := by
  unfold connectProcess
  dsimp only [Embedding.world]
  rw [φ.report_port]
  split
  · rfl
  · have told := φ.info_world ("provider " ++ i.id ++ " launched as pid " ++ Text.ofNat c.pid)
      ⟨w.kernel, (PortArgument.find d.args).report w.journal, w.files⟩
    dsimp only [onState]
    rw [← told]
    rfl

omit [Document δ] in
theorem launchProcess_embed (site : Site δ) (d : Definition) (i : Instance) (w : World κ) :
    i.launchProcess site d (φ.world w) = onState (onState φ.world) (i.launchProcess site d w) := by
  unfold launchProcess
  dsimp only [Embedding.world]
  generalize Launch.resolve (SearchPath.find? w.files site.searchPath) site.settings.fallbacks
    d.command d.args = resolved
  rw [φ.report_launch]
  cases resolved with
  | error cause => rfl
  | ok launch =>
    dsimp only
    rw [Child.spawn_embed]
    generalize Child.spawn w.files launch (Environment.merge site.environment d.env) w.kernel =
      spawned
    obtain ⟨answer, k⟩ := spawned
    cases answer with
    | error cause => rfl
    | ok c =>
      let started : World κ :=
        ⟨k, Child.reportSpawn launch (.ok c) (Launch.report (.ok launch) w.journal), w.files⟩
      have noted : φ.world started =
          ⟨φ.kernel k, Child.reportSpawn launch (.ok c)
            (φ.journal (Launch.report (.ok launch) w.journal)), w.files⟩ :=
        congrArg (World.mk _ · _) (φ.report .debug _ _).symm
      dsimp only [onState]
      rw [← noted, connectProcess_embed]
      rfl

omit [Document δ] in
theorem connect_embed (site : Site δ) (d : Definition) (i : Instance) (w : World κ) :
    i.connect site d (φ.world w) = onState (onState φ.world) (i.connect site d w) := by
  unfold connect
  split
  · exact launchProcess_embed φ site d i w
  · rfl

omit [Document δ] in
theorem explainSilence_embed (cause : Fault) (i : Instance) (w : World κ) :
    i.explainSilence cause (φ.world w) =
      onState (onState φ.world) (i.explainSilence cause w) := by
  unfold explainSilence
  cases i.child with
  | none => rfl
  | some c =>
    dsimp only [Embedding.world]
    rw [Child.waitForExit_embed]
    generalize c.waitForExit farewellWait w.kernel = waited
    obtain ⟨ended, c', k⟩ := waited
    cases ended <;> rfl

omit [Document δ] in
theorem greet_embed (site : Site δ) (i : Instance) (w : World κ) :
    i.greet site (φ.world w) = onState (onState φ.world) (i.greet site w) := by
  unfold greet
  cases i.peer? with
  | none => rfl
  | some peer =>
    dsimp only [Embedding.world]
    rw [φ.greet]
    generalize Kernel.greet peer site.settings.handshakeTimeout w.kernel = asked
    obtain ⟨answer, k⟩ := asked
    cases answer with
    | ok server => rfl
    | error cause =>
      have read := readLines_embed φ site i { w with kernel := k }
      simp only [Embedding.world] at read
      simp only [onState, read]
      generalize i.readLines site { w with kernel := k } = heard
      exact congrArg (fun x => (Except.error x.1, x.2))
        (explainSilence_embed φ cause heard.1 heard.2)

omit [Document δ] in
theorem awaitRound_embed (s : Settings) (i : Instance) (j : Journal) (k : κ) :
    i.awaitRound s (φ.journal j) (φ.kernel k) =
      onState (onState (.map φ.journal φ.kernel)) (i.awaitRound s j k) := by
  unfold awaitRound
  simp only [probe_embed, onState, φ.note_journal]
  split
  · simp only [φ.now, Prod.map]
  · simp only [isAlive_embed, onState, φ.now, Prod.map]

omit [Document δ] in
theorem awaitUntil_embed (s : Settings) (deadline : Nat) (i : Instance) (j : Journal) (k : κ) :
    i.awaitUntil s deadline (φ.journal j) (φ.kernel k) =
      onState (onState (.map φ.journal φ.kernel)) (i.awaitUntil s deadline j k) := by
  induction i, j, k using @awaitUntil.induct κ _ s deadline with
  | case1 i j k r i' j' k' round verdict ended =>
    have round' := i.awaitRound_embed φ s j k
    rw [round] at round'
    rw [awaitUntil_of_round round, awaitUntil_of_round round', ended]
    rfl
  | case2 i j k r i' j' k' round goesOn ih =>
    have round' := i.awaitRound_embed φ s j k
    rw [round] at round'
    rw [awaitUntil_of_round round, awaitUntil_of_round round', goesOn]
    dsimp only
    rw [φ.sleep]
    exact ih

omit [Document δ] in
theorem awaitReady_embed (s : Settings) (i : Instance) (w : World κ) :
    i.awaitReady s (φ.world w) = onState (onState φ.world) (i.awaitReady s w) := by
  simp only [awaitReady, awaitHealthy, Embedding.world, φ.now, awaitUntil_embed, onState, Prod.map]

omit [Document δ] in
theorem establish_embed (site : Site δ) (d : Definition) (i : Instance) (w : World κ) :
    i.establish site d (φ.world w) = onState (onState φ.world) (i.establish site d w) := by
  unfold establish
  rw [connect_embed]
  generalize i.connect site d w = connected
  obtain ⟨answer, i₁, w₁⟩ := connected
  cases answer with
  | error cause => rfl
  | ok note =>
    dsimp only [onState]
    rw [greet_embed]
    generalize i₁.greet site w₁ = greeted
    obtain ⟨answer, i₂, w₂⟩ := greeted
    cases answer with
    | error cause => rfl
    | ok =>
      dsimp only [onState]
      rw [awaitReady_embed]
      generalize i₂.awaitReady site.settings w₂ = ready
      obtain ⟨answer, i₃, w₃⟩ := ready
      cases answer <;> rfl

theorem abandon_embed (site : Site δ) (cause : StartFault) (i : Instance) (w : World κ) :
    i.abandon site cause (φ.world w) = onState φ.world (i.abandon site cause w) := by
  simp only [abandon, φ.error_world, retire_embed, onState]
  exact releaseChild_embed φ _ _

theorem attempt_embed (site : Site δ) (d : Definition) (w : World κ) :
    attempt site d (φ.world w) = onState (onState φ.world) (attempt site d w) := by
  unfold attempt
  simp only [transition_embed, onState, establish_embed]
  generalize ((ofDefinition site.settings d).transition site .starting w) = fresh
  generalize fresh.1.establish site d fresh.2 = made
  obtain ⟨answer, i, w'⟩ := made
  cases answer with
  | error cause => simp only [abandon_embed, onState]
  | ok note => simp only [transition_embed, onState]

end Instance

end ProviderHost
