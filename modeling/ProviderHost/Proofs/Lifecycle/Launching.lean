import ProviderHost.Proofs.Child.Collection
import ProviderHost.Proofs.Lifecycle.Teardown
import ProviderHost.Lifecycle.Attempt

/-!
# Attempts that fail

Whatever makes an attempt fail, its instance goes from the first stage over that of starting to
that of an error, and nothing is left of the processes that it has started: each was seen gone, or
was killed and collected.
-/

namespace ProviderHost

namespace Instance

open Child (Look Deal)

variable {δ κ : Type}

/-! ### Trials -/

def NoChange (id : Text) (r : Report) : Prop := ∀ old new, r ≠ (.info, changeNotice id old new)

theorem NoChange.of_level {id : Text} {r : Report} (level : r.1 ≠ .info) : NoChange id r :=
  fun _ _ same => level (congrArg Prod.fst same)

theorem NoChange.of_detail {id : Text} {r : Report} (detail : IsDetail r) : NoChange id r :=
  .of_level (by rw [detail]; rintro ⟨⟩)

theorem NoChange.of_warning {id : Text} {r : Report} (warning : r.1 = .warn) : NoChange id r :=
  .of_level (by rw [warning]; rintro ⟨⟩)

def account (i : Instance) (others : List Nat) : List Nat :=
  match i.child with
  | some c => c.account others
  | none => others

/-- What an attempt does with its instance: the instance accounts for the process that was started
for it, and no change of its stage is reported. -/
structure Trial (i : Instance) (r : Recorded κ) (reports : List Report) (i' : Instance)
    (r' : Recorded κ) : Prop where
  id : i'.id = i.id
  collected : ∃ calls, r.Extends calls r' ∧
    ∀ others, uncollected (i.account others) calls = i'.account others
  told : ∀ report ∈ reports, NoChange i.id report

theorem ChildLed.collected {i i' : Instance} {r r' : Recorded κ} (led : ChildLed Deal i r i' r') :
    ∃ calls, r.Extends calls r' ∧
      ∀ others, uncollected (i.account others) calls = i'.account others := by
  unfold account
  cases held : i.child with
  | none =>
    obtain ⟨none', entries⟩ := led.absent held
    rw [none']
    exact ⟨[], entries.trans (List.append_nil _).symm, fun others => rfl⟩
  | some c =>
    obtain ⟨c', held', calls, noted, course⟩ := led.present c held
    rw [held']
    exact ⟨calls, noted, course.uncollected⟩

theorem Conduct.trial {P : Report → Prop} {i i' : Instance} {r r' : Recorded κ}
    {reports : List Report} (conduct : Conduct Deal P i r reports i' r')
    (harmless : ∀ report, P report → NoChange i.id report) : Trial i r reports i' r' :=
  ⟨conduct.id, conduct.child.collected,
    fun report member => harmless report (conduct.told report member)⟩

theorem Conduct.look_trial {i i' : Instance} {r r' : Recorded κ} {reports : List Report}
    (conduct : Conduct Look IsDetail i r reports i' r') : Trial i r reports i' r' :=
  conduct.deals.trial fun _ => .of_detail

theorem Trial.trans {i i' i'' : Instance} {r r' r'' : Recorded κ} {first second : List Report}
    (earlier : Trial i r first i' r') (later : Trial i' r' second i'' r'') :
    Trial i r (first ++ second) i'' r'' where
  id := later.id.trans earlier.id
  collected := by
    obtain ⟨calls, noted, kept⟩ := earlier.collected
    obtain ⟨calls', noted', kept'⟩ := later.collected
    refine ⟨calls ++ calls', noted.trans noted', fun others => ?_⟩
    rw [uncollected_append, kept, kept']
  told report member := by
    rcases List.mem_append.mp member with member | member
    · exact earlier.told report member
    · have told := later.told report member
      rwa [earlier.id] at told

theorem report_port_tells (p : PortArgument) :
    ∃ reports, (∀ j, p.report j = j.tell reports) ∧ ∀ r ∈ reports, r.1 = .warn := by
  cases p with
  | absent | port n => exact ⟨[], fun j => rfl, by simp⟩
  | invalid value =>
    exact ⟨[(.warn, "ignoring invalid --port value '" ++ value ++ "'")], fun j => rfl, by simp⟩

theorem report_launch_tells (resolved : Except LaunchFault Launch) :
    ∃ reports, (∀ j, Launch.report resolved j = j.tell reports) ∧ ∀ r ∈ reports, r.1 = .warn := by
  cases resolved with
  | error cause => exact ⟨[], fun j => rfl, by simp⟩
  | ok launch =>
    by_cases plain : launch.note = []
    · exact ⟨[], fun j => by rw [Launch.report, if_pos plain]; rfl, by simp⟩
    · exact ⟨[(.warn, launch.note)], fun j => by rw [Launch.report, if_neg plain]; rfl, by simp⟩

theorem noChange_launched (id : Text) (pid : Nat) :
    NoChange id (.info, "provider " ++ id ++ " launched as pid " ++ Text.ofNat pid) := by
  intro old new same
  have texts := (Prod.ext_iff.mp same).2
  unfold changeNotice at texts
  simp only [List.append_assoc, List.append_cancel_left_eq] at texts
  cases texts

theorem connectProcess_tells (s : Settings) (d : Definition) (c : Child) (i : Instance) (k : κ)
    (files : Files) :
    ∃ outcome i' reports,
      (∀ j, i.connectProcess s d c ⟨k, j, files⟩ = (outcome, i', ⟨k, j.tell reports, files⟩)) ∧
      i'.id = i.id ∧ i'.child = some c ∧ ∀ r ∈ reports, NoChange i.id r := by
  obtain ⟨reports, told, warnings⟩ := report_port_tells (PortArgument.find d.args)
  have harmless : ∀ r ∈ reports, NoChange i.id r := fun r member =>
    .of_warning (warnings r member)
  unfold connectProcess
  simp only [told]
  split
  · exact ⟨_, _, reports, fun j => rfl, rfl, rfl, harmless⟩
  · rename_i base _
    refine ⟨.ok (), { i with
      child := some c
      url := processUrl s d (PortArgument.find d.args).port?
      baseUrl := base
      transport := some {} },
      reports ++ [(.info, "provider " ++ i.id ++ " launched as pid " ++ Text.ofNat c.pid)],
      fun j => by rw [Journal.tell_append]; rfl, rfl, rfl, fun r member => ?_⟩
    rcases List.mem_append.mp member with member | member
    · exact harmless r member
    · rw [List.mem_singleton.mp member]
      exact noChange_launched i.id c.pid

variable [Kernel κ]

/-! ### Greeting and waiting -/

theorem explainSilence_conduct (cause : Fault) (i : Instance) (k : Recorded κ) (files : Files) :
    ∃ fault i' k', (∀ j, i.explainSilence cause ⟨k, j, files⟩ = (fault, i', ⟨k', j, files⟩)) ∧
      Conduct Look IsDetail i k [] i' k' := by
  cases held : i.child with
  | none =>
    exact ⟨.ungreeted cause, i, k, fun j => by rw [explainSilence, held],
      .silent rfl (.same rfl rfl)⟩
  | some c =>
    have waited := c.waitForExit_waited farewellWait k
    unfold explainSilence
    simp only [held]
    generalize c.waitForExit farewellWait k = waiting at waited ⊢
    obtain ⟨ended, c', k'⟩ := waiting
    have led : ChildLed Look i k { i with child := some c' } k' := .of_led held rfl waited.led
    cases ended with
    | true => exact ⟨_, { i with child := some c' }, k', fun _ => rfl, .silent rfl led⟩
    | false => exact ⟨_, { i with child := some c' }, k', fun _ => rfl, .silent rfl led⟩

theorem greet_conduct (site : Site δ) (i : Instance) (k : Recorded κ) (files : Files) :
    ∃ outcome i' k' reports,
      (∀ j, i.greet site ⟨k, j, files⟩ = (outcome, i', ⟨k', j.tell reports, files⟩)) ∧
      Conduct Look IsDetail i k reports i' k' := by
  cases known : i.peer? with
  | none =>
    refine ⟨.ok (), i, k, [], fun j => ?_, .silent rfl (.same rfl rfl)⟩
    simp only [greet, known]
    rfl
  | some peer =>
    have passed : (Kernel.greet peer site.settings.handshakeTimeout k).2.entries = k.entries := rfl
    cases answered : Kernel.greet peer site.settings.handshakeTimeout k with
    | mk answer k₁ =>
      rw [answered] at passed
      cases answer with
      | ok server =>
        refine ⟨.ok (), { i with
          server := server
          transport := i.transport.map fun (t : Transport) =>
            { t with greeted := true, server := server } }, k₁, [], fun j => ?_,
          .silent rfl (.same rfl passed)⟩
        simp only [greet, known, answered]
        rfl
      | error cause =>
        obtain ⟨i₁, k₂, reports, read, conduct⟩ := i.readLines_conduct site k₁ files
        obtain ⟨fault, i₂, k₃, explained, conduct'⟩ := i₁.explainSilence_conduct cause k₂ files
        have begun : Conduct Look IsDetail i k [] i k₁ := .silent rfl (.same rfl passed)
        refine ⟨.error fault, i₂, k₃, [] ++ reports ++ [], fun j => ?_,
          (begun.trans conduct).trans conduct'⟩
        simp only [greet, known, answered, read, explained, List.nil_append, List.append_nil]

theorem awaitRound_conduct (s : Settings) (i : Instance) (k : Recorded κ) :
    ∃ round i' k' reports, (∀ j, i.awaitRound s j k = (round, i', j.tell reports, k')) ∧
      Conduct Look IsDetail i k reports i' k' := by
  have probed : Conduct Look IsDetail i k ((i.probe s k).1.note.toList.map (Prod.mk .debug))
    (i.probe s k).2.1 (i.probe s k).2.2 := ⟨i.probe_id s k, i.probe_led s k, by simp [IsDetail]⟩
  unfold awaitRound
  generalize i.probe s k = probe at probed ⊢
  obtain ⟨p, i₁, k₁⟩ := probe
  dsimp only at probed ⊢
  simp only [Journal.note_eq_tell]
  cases p.healthy with
  | true => exact ⟨_, i₁, k₁, _, fun j => rfl, probed⟩
  | false =>
    have asked : Conduct Look IsDetail i₁ k₁ [] (i₁.isAlive k₁).2.1 (i₁.isAlive k₁).2.2 :=
      .silent (i₁.isAlive_id k₁) (i₁.isAlive_led k₁)
    have both := probed.trans asked
    rw [List.append_nil] at both
    exact ⟨_, (i₁.isAlive k₁).2.1, (i₁.isAlive k₁).2.2, _, fun j => rfl, both⟩

theorem awaitUntil_conduct (s : Settings) (deadline : Nat) (i : Instance) (k : Recorded κ) :
    ∃ verdict i' k' reports,
      (∀ j, i.awaitUntil s deadline j k = (verdict, i', j.tell reports, k')) ∧
      Conduct Look IsDetail i k reports i' k' := by
  -- The rounds go the same way for every journal, so one of them can lead the induction.
  have general (j : Journal) : ∃ verdict i' k' reports,
      (∀ j, i.awaitUntil s deadline j k = (verdict, i', j.tell reports, k')) ∧
      Conduct Look IsDetail i k reports i' k' := by
    induction i, j, k using @awaitUntil.induct (Recorded κ) _ s deadline with
    | case1 i j k r i' j' k' round verdict ended =>
      obtain ⟨r₁, i₁, k₁, reports, rounds, conduct⟩ := i.awaitRound_conduct s k
      cases (rounds j).symm.trans round
      refine ⟨verdict, i', k', reports, fun j => ?_, conduct⟩
      rw [awaitUntil_of_round (rounds j), ended]
    | case2 i j k r i' j' k' round goesOn ih =>
      obtain ⟨r₁, i₁, k₁, reports, rounds, conduct⟩ := i.awaitRound_conduct s k
      cases (rounds j).symm.trans round
      obtain ⟨verdict, i₂, k₂, later, awaited, conduct'⟩ := ih
      have slept : Conduct Look IsDetail i' k' [] i'
        (Kernel.sleep (r.pause s.probeInterval deadline) k') := .silent rfl (.same rfl rfl)
      have whole := conduct.trans (slept.trans conduct')
      refine ⟨verdict, i₂, k₂, reports ++ later, fun j => ?_, whole⟩
      rw [awaitUntil_of_round (rounds j), goesOn, Journal.tell_append]
      exact awaited _
  exact general {}

theorem awaitReady_conduct (s : Settings) (i : Instance) (k : Recorded κ) (files : Files) :
    ∃ outcome i' k' reports,
      (∀ j, i.awaitReady s ⟨k, j, files⟩ = (outcome, i', ⟨k', j.tell reports, files⟩)) ∧
      Conduct Look IsDetail i k reports i' k' := by
  obtain ⟨verdict, i', k', reports, awaited, conduct⟩ :=
    i.awaitUntil_conduct s (Kernel.now k + s.probeWindow) k
  exact ⟨_, i', k', reports, fun j => by rw [awaitReady, awaitHealthy, awaited], conduct⟩

/-! ### Connecting -/

theorem launchProcess_trial (site : Site δ) (d : Definition) {i : Instance}
    (fresh : i.child = none) (k : Recorded κ) (files : Files) :
    ∃ outcome i' k' reports,
      (∀ j, i.launchProcess site d ⟨k, j, files⟩ = (outcome, i', ⟨k', j.tell reports, files⟩)) ∧
      Trial i k reports i' k' := by
  have empty (others : List Nat) : i.account others = others := by rw [account, fresh]
  unfold launchProcess
  dsimp only
  generalize Launch.resolve (SearchPath.find? files site.searchPath) site.settings.fallbacks
    d.command d.args = resolved
  obtain ⟨first, told, warnings⟩ := report_launch_tells resolved
  have harmless : ∀ r ∈ first, NoChange i.id r := fun r member => .of_warning (warnings r member)
  simp only [told]
  cases resolved with
  | error cause =>
    exact ⟨_, i, k, first, fun j => rfl, rfl, ⟨[], .refl k, fun others => rfl⟩, harmless⟩
  | ok launch =>
    obtain ⟨calls, noted, collected⟩ :=
      Child.spawn_uncollected files launch (Environment.merge site.environment d.env) k
    dsimp only
    generalize Child.spawn files launch (Environment.merge site.environment d.env) k = spawned
      at noted collected ⊢
    obtain ⟨answer, k₁⟩ := spawned
    cases answer with
    | error cause =>
      refine ⟨_, i, k₁, first, fun j => rfl, rfl, ⟨calls, noted, fun others => ?_⟩, harmless⟩
      rw [empty, collected]
    | ok c =>
      obtain ⟨outcome, i', second, connected, id, held, told'⟩ :=
        i.connectProcess_tells site.settings d c k₁ files
      refine ⟨outcome.map fun _ => launch.note, i', k₁,
        first ++ [(.debug, "spawned " ++ launch.executable ++ " as pid " ++ Text.ofNat c.pid)] ++
          second, fun j => ?_, id, ⟨calls, noted, fun others => ?_⟩, fun r member => ?_⟩
      · simp only [connected, Journal.tell_append]
        rfl
      · rw [empty, collected, account, held]
      · rcases List.mem_append.mp member with member | member
        · rcases List.mem_append.mp member with member | member
          · exact harmless r member
          · rw [List.mem_singleton.mp member]
            exact .of_detail rfl
        · exact told' r member

theorem connect_trial (site : Site δ) (d : Definition) {i : Instance} (fresh : i.child = none)
    (k : Recorded κ) (files : Files) :
    ∃ outcome i' k' reports,
      (∀ j, i.connect site d ⟨k, j, files⟩ = (outcome, i', ⟨k', j.tell reports, files⟩)) ∧
      Trial i k reports i' k' := by
  cases kind : d.kind with
  | process =>
    obtain ⟨outcome, i', k', reports, launched, trial⟩ := launchProcess_trial site d fresh k files
    exact ⟨outcome, i', k', reports, fun j => by simp only [connect, kind, launched], trial⟩
  | network =>
    have same : ∃ outcome i', i.connectNetwork d = (outcome, i') ∧ i'.id = i.id ∧
        i'.child = i.child := by
      unfold connectNetwork
      dsimp only
      split
      · exact ⟨_, i, rfl, rfl, rfl⟩
      · exact ⟨_, _, rfl, rfl, rfl⟩
    obtain ⟨outcome, i', connected, id, child⟩ := same
    refine ⟨outcome, i', k, [], fun j => ?_, id, ⟨[], .refl k, fun others => ?_⟩, by simp⟩
    · simp only [connect, kind, connected]
      rfl
    · rw [account, account, child]
      rfl

theorem establish_trial (site : Site δ) (d : Definition) {i : Instance} (fresh : i.child = none)
    (k : Recorded κ) (files : Files) :
    ∃ outcome i' k' reports,
      (∀ j, i.establish site d ⟨k, j, files⟩ = (outcome, i', ⟨k', j.tell reports, files⟩)) ∧
      Trial i k reports i' k' := by
  obtain ⟨outcome, i₁, k₁, first, connected, trial₁⟩ := connect_trial site d fresh k files
  cases outcome with
  | error cause =>
    exact ⟨.error cause, i₁, k₁, first, fun j => by simp only [establish, connected], trial₁⟩
  | ok note =>
    obtain ⟨outcome, i₂, k₂, second, greeted, conduct₂⟩ := i₁.greet_conduct site k₁ files
    have trial₂ := trial₁.trans conduct₂.look_trial
    cases outcome with
    | error cause =>
      refine ⟨.error cause, i₂, k₂, first ++ second, fun j => ?_, trial₂⟩
      simp only [establish, connected, greeted, Journal.tell_append]
    | ok =>
      obtain ⟨outcome, i₃, k₃, third, ready, conduct₃⟩ :=
        i₂.awaitReady_conduct site.settings k₂ files
      refine ⟨outcome.map fun _ => note, i₃, k₃, first ++ second ++ third, fun j => ?_,
        trial₂.trans conduct₃.look_trial⟩
      simp only [establish, connected, greeted, ready, Journal.tell_append]
      cases outcome <;> rfl

/-! ### Giving up -/

theorem endProcess_conduct (s : Settings) (i : Instance) (k : Recorded κ) (files : Files) :
    ∃ i' k' reports, (∀ j, i.endProcess s ⟨k, j, files⟩ = (i', ⟨k', j.tell reports, files⟩)) ∧
      Conduct Deal (NoChange i.id) i k reports i' k' := by
  cases held : i.child with
  | none =>
    exact ⟨i, k, [], fun j => by simp only [endProcess, held]; rfl, .silent rfl (.same rfl rfl)⟩
  | some c =>
    obtain ⟨calls, noted, escalation⟩ := c.shutDown_escalation s.stopGrace k
    cases shut : c.shutDown s.stopGrace k with
    | mk ending rest =>
      obtain ⟨c', k'⟩ := rest
      rw [shut] at noted escalation
      refine ⟨{ i with child := some c' }, k', ending.reports i.id s.stopGrace c'.pid, fun j => ?_,
        rfl, .of_led held rfl ⟨calls, noted, escalation.course⟩,
        fun r member => .of_level (Ending.level_of_reports member)⟩
      simp only [endProcess, held, shut, Ending.report_eq_tell]

theorem releaseChild_conduct (i : Instance) (k : Recorded κ) (files : Files) :
    ∃ i' k', (∀ j, i.releaseChild ⟨k, j, files⟩ = (i', ⟨k', j, files⟩)) ∧
      Conduct Deal IsDetail i k [] i' k' ∧ ∀ c, i'.child = some c → c.reaped := by
  cases held : i.child with
  | none =>
    refine ⟨i, k, fun j => by simp only [releaseChild, held], .silent rfl (.same rfl rfl),
      fun c present => ?_⟩
    cases held.symm.trans present
  | some c =>
    have released := c.release_released k
    cases left : c.release k with
    | mk c' k' =>
      rw [left] at released
      refine ⟨{ i with child := some c' }, k', fun j => by simp only [releaseChild, held, left],
        .silent rfl (.of_led held rfl released.led), fun d present => ?_⟩
      cases present
      exact released.reaped

theorem account_of_released {i : Instance} (gone : ∀ c, i.child = some c → c.reaped)
    (others : List Nat) : i.account others = others := by
  unfold account
  cases held : i.child with
  | none => rfl
  | some c => exact Child.account_of_reaped (gone c held) others

variable [Document δ]

theorem joinMonitor_of_over (site : Site δ) {i : Instance} (w : World κ)
    (finished : i.monitor.phase.isOver) :
    i.joinMonitor site w = ({ i with monitor := { i.monitor with stopping := true } }, w) := by
  have rests : i.monitor.phase.isResting := by
    cases phase : i.monitor.phase <;> simp_all [MonitorPhase.isOver, MonitorPhase.isResting]
  unfold joinMonitor finishRound roundLength monitorSteps
  rw [if_pos rests]
  exact monitorStep_of_over site w finished

/-- Giving an attempt up brings its instance to the stage of an error, and leaves nothing to
collect. -/
theorem abandon_trial (site : Site δ) (cause : StartFault) {i : Instance}
    (finished : i.monitor.phase.isOver) (starting : i.stage = .starting) (k : Recorded κ)
    (files : Files) :
    ∃ i' k' files' before after,
      (∀ j, i.abandon site cause ⟨k, j, files⟩ = (i',
        ⟨k', j.tell (before ++ (.info, changeNotice i.id .starting .error) :: after), files'⟩)) ∧
      i'.id = i.id ∧ i'.stage = .error ∧ (∀ c, i'.child = some c → c.reaped) ∧
      (∃ calls, k.Extends calls k' ∧ ∀ others, uncollected (i.account others) calls = others) ∧
      ∀ r ∈ before ++ after, NoChange i.id r := by
  let i₀ : Instance := { i with monitor := { i.monitor with stopping := true } }
  obtain ⟨i₁, k₁, first, closed, conduct₁⟩ := i₀.disconnect_conduct k files
  obtain ⟨i₂, k₂, second, ended, conduct₂⟩ := i₁.endProcess_conduct site.settings k₁ files
  -- Neither closing the transport nor ending the process touches the stage.
  have stage₂ : i₂.stage = .starting := by
    obtain ⟨ring, frame⟩ := i₀.disconnect_frame ⟨k, {}, files⟩
    obtain ⟨c, frame'⟩ := i₁.endProcess_frame site.settings ⟨k₁, {}, files⟩
    rw [closed] at frame
    rw [ended] at frame'
    cases frame
    cases frame'
    exact starting
  obtain ⟨files', after, changed, details⟩ :=
    transition_tells (κ := Recorded κ) site (i := i₂)
      (show i₂.stage ≠ .error by rw [stage₂]; rintro ⟨⟩) files
  obtain ⟨i₃, k₃, released, conduct₃, gone⟩ :=
    { i₂ with stage := .error }.releaseChild_conduct k₂ files'
  have stage₃ : i₃.stage = .error := by
    obtain ⟨c, frame⟩ := { i₂ with stage := .error }.releaseChild_frame ⟨k₂, {}, files'⟩
    rw [released] at frame
    cases frame
    rfl
  have id₂ : i₂.id = i.id := conduct₂.id.trans conduct₁.id
  have silent₂ : Trial i₂ k₂ [] { i₂ with stage := .error } k₂ :=
    ⟨rfl, ⟨[], .refl k₂, fun others => rfl⟩, by simp⟩
  have trial := ((conduct₁.look_trial.trans (conduct₂.trial fun _ told => told)).trans
    silent₂).trans (conduct₃.trial fun _ => .of_detail)
  obtain ⟨calls, noted, kept⟩ := trial.collected
  let message : Text := "provider " ++ i.id ++ " failed to start: " ++ cause.fault.message
  refine ⟨i₃, k₃, files', (.error, message) :: (first ++ second), after, fun j => ?_,
    conduct₃.id.trans id₂, stage₃, gone, ⟨calls, noted, fun others => ?_⟩, fun r member => ?_⟩
  · simp only [abandon, retire, tearDown, World.error, joinMonitor_of_over site _ finished,
      Bool.false_eq_true, if_false]
    rw [show { i with monitor := { i.monitor with stopping := true } } = i₀ from rfl, closed, ended,
      changed, released, stage₂, id₂,
      ← Journal.tell_append first second, Journal.tell_append _ (_ :: after)]
    rfl
  · exact (kept others).trans (account_of_released gone others)
  · rcases List.mem_append.mp member with member | member
    · rcases List.mem_cons.mp member with rfl | member
      · exact .of_level (by rintro ⟨⟩)
      · exact trial.told r (by simp [member])
    · exact .of_detail (details r member)

/-- How an attempt leaves its instance and the system when it fails. -/
structure Undone (d : Definition) (r : Recorded κ) (reports : List Report) (i : Instance)
    (r' : Recorded κ) : Prop where
  id : i.id = d.id
  stage : i.stage = .error
  gone : ∀ c, i.child = some c → c.reaped
  collected : ∃ calls, r.Extends calls r' ∧ ∀ others, uncollected others calls = others
  told : ∃ middle last, reports = (.info, changeNotice d.id .stopped .starting) :: middle ++
      (.info, changeNotice d.id .starting .error) :: last ∧
    ∀ report ∈ middle ++ last, NoChange d.id report

/-- An attempt goes the same way for every journal, and what has failed is undone. -/
theorem attempt_undone (site : Site δ) (d : Definition) (k : Recorded κ) (files : Files) :
    ∃ answer i k' files' reports,
      (∀ j, attempt site d ⟨k, j, files⟩ = (answer, i, ⟨k', j.tell reports, files'⟩)) ∧
      ∀ cause, answer = .error cause → Undone d k reports i k' := by
  let i₁ : Instance := { ofDefinition site.settings d with stage := .starting }
  have differs : (ofDefinition site.settings d).stage ≠ .starting := by rintro ⟨⟩
  obtain ⟨files₁, first, begun, details⟩ :=
    transition_tells (κ := Recorded κ) site differs files
  obtain ⟨outcome, i₂, k₂, second, established, trial⟩ :=
    establish_trial site d (i := i₁) rfl k files₁
  have life := i₁.establish_life site d ⟨k, {}, files₁⟩
  rw [established] at life
  cases outcome with
  | ok note =>
    obtain ⟨files₂, third, running, -⟩ := i₂.transition_conduct site .running k₂ files₁
    refine ⟨.ok note, { i₂ with stage := .running }, k₂, files₂,
      ((.info, changeNotice d.id .stopped .starting) :: first) ++ second ++ third,
      fun j => ?_, fun cause failed => ?_⟩
    · simp only [attempt]
      rw [begun]
      dsimp only
      rw [established]
      dsimp only
      rw [running, Journal.tell_append _ third, Journal.tell_append _ second]
      rfl
    · cases failed
  | error cause =>
    obtain ⟨i₃, k₃, files₂, before, after, abandoned, id, stage, gone, collected, told⟩ :=
      abandon_trial site cause (i := i₂) (by rw [life.monitor]; rfl) life.stage k₂ files₁
    have same : i₂.id = d.id := life.id
    rw [same] at abandoned told id
    refine ⟨.error cause, i₃, k₃, files₂,
      ((.info, changeNotice d.id .stopped .starting) :: (first ++ (second ++ before))) ++
        (.info, changeNotice d.id .starting .error) :: after,
      fun j => ?_, fun cause' _ => ⟨id, stage, gone, ?_, _, _, rfl, fun r member => ?_⟩⟩
    · simp only [attempt]
      rw [begun]
      dsimp only
      rw [established]
      dsimp only
      rw [abandoned]
      simp only [Journal.tell, List.foldl_append, List.foldl_cons]
      rfl
    · -- The instance accounts for what was started until it is given up.
      obtain ⟨calls, noted, kept⟩ := trial.collected
      obtain ⟨calls', noted', kept'⟩ := collected
      refine ⟨calls ++ calls', noted.trans noted', fun others => ?_⟩
      have started : uncollected others calls = i₂.account others := kept others
      rw [uncollected_append, started, kept']
    · rcases List.mem_append.mp member with member | member
      · rcases List.mem_append.mp member with member | member
        · exact .of_detail (details r member)
        · rcases List.mem_append.mp member with member | member
          · exact trial.told r member
          · exact told r (List.mem_append_left after member)
      · exact told r (List.mem_append_right before member)

end Instance

end ProviderHost
