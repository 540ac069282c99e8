import ProviderHost.Proofs.Lifecycle.Reports
import ProviderHost.Proofs.Lifecycle.Stopping
import ProviderHost.Store.Roster
import ProviderHost.System

/-!
# What a monitor observes

A round of a monitor finds the process dead, or makes a probe. This is all that counts: while
nobody else changes the stage, it is the fold of what was observed so far, every change of it is
reported and noted once, and nothing is observed after the death of the process.
-/

namespace ProviderHost

inductive Observation where
  | dead
  | probed (healthy : Bool)
  deriving DecidableEq, Repr

def Lifecycle.follow (s : Lifecycle) : Observation → Lifecycle
  | .dead => .stopped
  | .probed healthy =>
    if s = .running ∨ s = .unhealthy then (if healthy then .running else .unhealthy) else s

theorem Lifecycle.judge?_follow (s : Lifecycle) (healthy : Bool) :
    (s.judge? healthy).getD s = s.follow (.probed healthy) := by
  cases s <;> cases healthy <;> rfl

/-- Between two journals, this was reported besides details. -/
def Journal.Hears (j : Journal) (loud : List Report) (j' : Journal) : Prop :=
  ∃ reports, j' = j.tell reports ∧ reports.filter (·.1 ≠ .debug) = loud

namespace Journal.Hears

variable {j j' j'' : Journal} {loud louder : List Report}

theorem refl (j : Journal) : j.Hears [] j := ⟨[], rfl, rfl⟩

theorem of_details {reports : List Report} (minor : ∀ r ∈ reports, IsDetail r) (j : Journal) :
    j.Hears [] (j.tell reports) := by
  refine ⟨reports, rfl, List.filter_eq_nil_iff.mpr fun r member => ?_⟩
  simpa [IsDetail] using minor r member

theorem trans (first : j.Hears loud j') (second : j'.Hears louder j'') :
    j.Hears (loud ++ louder) j'' := by
  obtain ⟨reports, rfl, heard⟩ := first
  obtain ⟨more, rfl, heardMore⟩ := second
  exact ⟨reports ++ more, (tell_append reports more j).symm,
    by rw [List.filter_append, heard, heardMore]⟩

end Journal.Hears

namespace Instance

variable {δ κ : Type}

/-! ### Changes of the stage -/

/-- How a change of stage is reported; a change to the same stage is none. -/
def notices (id : Text) (old new : Lifecycle) : List Report :=
  if old = new then [] else [(.info, changeNotice id old new)]

def noted [Document δ] (site : Site δ) (id : Text) (old new : Lifecycle) (files : Files) : Files :=
  if old = new then files else (Store.recordStatus δ id new.name files site.registry).2

theorem recordStatus_files [Document δ] (site : Site δ) (id : Text) (stage : Lifecycle)
    (w : World κ) :
    (w.recordStatus site id stage).files =
      (Store.recordStatus δ id stage.name w.files site.registry).2 := by
  unfold World.recordStatus
  split <;> rename_i recorded <;> rw [recorded]
  rfl

theorem transition_noted [Document δ] (site : Site δ) (next : Lifecycle) (i : Instance)
    (w : World κ) :
    (i.transition site next w).2.files = noted site i.id i.stage next w.files := by
  unfold transition noted
  split
  · rfl
  · exact recordStatus_files site i.id next _

theorem transition_heard [Document δ] (site : Site δ) (next : Lifecycle) (i : Instance)
    (w : World κ) :
    w.journal.Hears (notices i.id i.stage next) (i.transition site next w).2.journal := by
  by_cases same : i.stage = next
  · rw [transition, if_pos same, notices, if_pos same]
    exact .refl w.journal
  · obtain ⟨files, details, told, minor⟩ := transition_tells (κ := κ) site same w.files
    have changed := told w.kernel w.journal
    rw [notices, if_neg same, changed]
    exact ⟨_, rfl, by simpa [IsDetail] using minor⟩

theorem transition_inPhase [Document δ] (site : Site δ) (next : Lifecycle) (phase : MonitorPhase)
    (i : Instance) (w : World κ) :
    (i.inPhase phase).transition site next w =
      ((i.transition site next w).1.inPhase phase, (i.transition site next w).2) := by
  unfold transition inPhase
  split <;> rfl

/-! ### Asking, whatever the monitor is at -/

theorem phase_inPhase (phase : MonitorPhase) (i : Instance) :
    (i.inPhase phase).monitor.phase = phase := rfl

variable [Kernel κ]

theorem isAlive_inPhase (phase : MonitorPhase) (i : Instance) (k : κ) :
    (i.inPhase phase).isAlive k =
      ((i.isAlive k).1, (i.isAlive k).2.1.inPhase phase, (i.isAlive k).2.2) := by
  unfold isAlive
  cases child : i.child <;> simp [inPhase, child]

theorem probeUrl_inPhase (s : Settings) (phase : MonitorPhase) (i : Instance) (u : Url) (k : κ) :
    (i.inPhase phase).probeUrl s u k =
      ((i.probeUrl s u k).1, (i.probeUrl s u k).2.1.inPhase phase, (i.probeUrl s u k).2.2) := by
  unfold probeUrl
  split <;> rfl

theorem probe_inPhase (s : Settings) (phase : MonitorPhase) (i : Instance) (k : κ) :
    (i.inPhase phase).probe s k =
      ((i.probe s k).1, (i.probe s k).2.1.inPhase phase, (i.probe s k).2.2) := by
  unfold probe
  rw [show (i.inPhase phase).kind = i.kind from rfl, isAlive_inPhase phase i k]
  cases i.kind with
  | process =>
    rcases i.isAlive k with ⟨_ | _, i', k'⟩
    · rfl
    · dsimp only
      rw [show (i'.inPhase phase).isConnected = i'.isConnected from rfl,
        show (i'.inPhase phase).baseUrl = i'.baseUrl from rfl]
      split
      · rfl
      · cases i'.baseUrl with
        | none => rfl
        | some u => exact probeUrl_inPhase s phase i' u k'
  | network =>
    rw [show (i.inPhase phase).baseUrl = i.baseUrl from rfl]
    cases i.baseUrl with
    | none => rfl
    | some u => exact probeUrl_inPhase s phase i u k

theorem checkAlive_inPhase (phase : MonitorPhase) (i : Instance) (w : World κ) :
    (i.inPhase phase).checkAlive w =
      ((i.checkAlive w).1, (i.checkAlive w).2.1.inPhase phase, (i.checkAlive w).2.2) := by
  unfold checkAlive
  rw [isAlive_inPhase]

theorem checkHealth_inPhase (s : Settings) (phase : MonitorPhase) (i : Instance) (w : World κ) :
    (i.inPhase phase).checkHealth s w =
      ((i.checkHealth s w).1, (i.checkHealth s w).2.1.inPhase phase,
        (i.checkHealth s w).2.2) := by
  unfold checkHealth
  rw [probe_inPhase]

/-! ### A round -/

variable [Document δ]

def isDue (i : Instance) (w : World κ) : Bool :=
  i.monitor.phase = .waiting ∧ i.monitor.due ≤ Kernel.now w.kernel

/-- What a round observes. A monitor that is asked to stop observes nothing. -/
def observed? (site : Site δ) (i : Instance) (w : World κ) : Option Observation :=
  if i.isDue w ∧ ¬ i.monitor.stopping then
    match i.checkAlive w with
    | (false, _) => some .dead
    | (true, i, w) => some (.probed (i.checkHealth site.settings w).1)
  else none

theorem monitorSteps_of_busy (site : Site δ) (n : Nat) {i : Instance} (w : World κ)
    (busy : i.monitor.phase.isResting = false) :
    i.monitorSteps site (n + 1) w =
      (i.monitorStep site w).1.monitorSteps site n (i.monitorStep site w).2 := by
  rw [monitorSteps, if_neg (by simp [busy])]

theorem monitorSteps_of_resting (site : Site δ) (n : Nat) {i : Instance} (w : World κ)
    (resting : i.monitor.phase.isResting) : i.monitorSteps site n w = (i, w) := by
  cases n with
  | zero => rfl
  | succ n => rw [monitorSteps, if_pos resting]

theorem monitorRound_of_due (site : Site δ) {i : Instance} {w : World κ} (due : i.isDue w)
    (kept : i.monitor.stopping = false) :
    i.monitorRound site w = (i.inPhase .looking).finishRound site w := by
  obtain ⟨phase, fired⟩ := of_decide_eq_true due
  unfold monitorRound monitorStep
  rw [if_neg (by omega)]
  simp only [phase, kept, Bool.false_eq_true, if_false]

/-- A round that finds the process dead closes the connection and is the last one. -/
theorem monitorRound_of_dead (site : Site δ) {i i' : Instance} {w w' : World κ} (due : i.isDue w)
    (kept : i.monitor.stopping = false) (asked : i.checkAlive w = (false, i', w')) :
    i.monitorRound site w =
      let parted := (i'.inPhase .abandoning).disconnect
        (w'.warn ("provider " ++ i'.id ++ " exited unexpectedly"))
      let made := parted.1.transition site .stopped parted.2
      (made.1.inPhase .ended, made.2) := by
  have looked : (i.inPhase .looking).monitorStep site w =
      (i'.inPhase .abandoning, w'.warn ("provider " ++ i'.id ++ " exited unexpectedly")) := by
    unfold monitorStep
    rw [phase_inPhase]
    dsimp only
    rw [checkAlive_inPhase, asked]
    rfl
  have abandoned (x : World κ) : (i'.inPhase .abandoning).monitorStep site x =
      (((i'.inPhase .abandoning).disconnect x).1.inPhase .ending,
        ((i'.inPhase .abandoning).disconnect x).2) := by
    unfold monitorStep
    rw [phase_inPhase]
  have ended (j : Instance) (x : World κ) : (j.inPhase .ending).monitorStep site x =
      ((j.transition site .stopped x).1.inPhase .ended, (j.transition site .stopped x).2) := by
    unfold monitorStep
    rw [phase_inPhase]
    dsimp only
    rw [transition_inPhase]
    rfl
  rw [monitorRound_of_due site due kept, finishRound, roundLength,
    monitorSteps_of_busy site 3 w rfl, looked, monitorSteps_of_busy site 2 _ rfl, abandoned,
    monitorSteps_of_busy site 1 _ rfl, ended, monitorSteps_of_resting site 1 _ rfl]

theorem monitorRound_of_alive (site : Site δ) {i i' j : Instance} {w w' x : World κ}
    {healthy : Bool} (due : i.isDue w) (kept : i.monitor.stopping = false)
    (asked : i.checkAlive w = (true, i', w'))
    (probed : i'.checkHealth site.settings w' = (healthy, j, x)) :
    i.monitorRound site w =
      let made := j.transition site (j.stage.follow (.probed healthy)) x
      (made.1.awaitingRound site.settings made.2, made.2) := by
  have looked : (i.inPhase .looking).monitorStep site w = (i'.inPhase .probing, w') := by
    unfold monitorStep
    rw [phase_inPhase]
    dsimp only
    rw [checkAlive_inPhase, asked]
    rfl
  have found : (i'.inPhase .probing).monitorStep site w' =
      (j.inPhase (.judging healthy), x) := by
    unfold monitorStep
    rw [phase_inPhase]
    dsimp only
    rw [checkHealth_inPhase, probed]
    rfl
  rw [monitorRound_of_due site due kept, finishRound, roundLength,
    monitorSteps_of_busy site 3 w rfl, looked, monitorSteps_of_busy site 2 _ rfl, found,
    monitorSteps_of_busy site 1 _ rfl, ← Lifecycle.judge?_follow]
  cases judged : j.stage.judge? healthy with
  | none =>
    have stayed : (j.inPhase (.judging healthy)).monitorStep site x =
        (j.awaitingRound site.settings x, x) := by
      unfold monitorStep
      dsimp only [inPhase]
      rw [judged]
      rfl
    rw [stayed, monitorSteps_of_resting site 1 _ rfl, Option.getD_none, transition_eq_self]
  | some next =>
    have chosen : (j.inPhase (.judging healthy)).monitorStep site x =
        (j.inPhase (.changing next), x) := by
      unfold monitorStep
      dsimp only [inPhase]
      rw [judged]
    have changed : (j.inPhase (.changing next)).monitorStep site x =
        ((j.transition site next x).1.awaitingRound site.settings (j.transition site next x).2,
          (j.transition site next x).2) := by
      unfold monitorStep
      rw [phase_inPhase]
      dsimp only
      rw [transition_inPhase]
      rfl
    rw [chosen, monitorSteps_of_busy site 0 _ rfl, changed, Option.getD_some]
    rfl

def alarm (id : Text) (seen : Option Observation) : List Report :=
  if seen = some .dead then [(.warn, "provider " ++ id ++ " exited unexpectedly")] else []

/-- What a round makes of an instance and of the world, by what it observes. -/
structure Follows (site : Site δ) (i : Instance) (w : World κ) (j : Instance) (x : World κ) :
    Prop where
  id : j.id = i.id
  stage : j.stage = (i.observed? site w).elim i.stage i.stage.follow
  phase : j.monitor.phase =
    if i.observed? site w = some .dead ∨ (i.isDue w ∧ i.monitor.stopping) then .ended
    else i.monitor.phase
  stopping : j.monitor.stopping = i.monitor.stopping
  transport : j.transport =
    if i.observed? site w = some .dead then i.transport.map fun t => t.close.1 else i.transport
  /-- A change of the stage is reported once, and a stage that is kept is not. -/
  told : w.journal.Hears (alarm i.id (i.observed? site w) ++ notices i.id i.stage j.stage) x.journal
  noted : x.files = noted site i.id i.stage j.stage w.files
  idle : i.observed? site w = none → x = w

theorem closeTransport_heard (i : Instance) (j : Journal) (k : κ) :
    j.Hears [] (i.closeTransport j k).2.1 := by
  unfold closeTransport
  split
  · exact .refl j
  · rename_i t present
    obtain ⟨ring, reports, told, details⟩ :=
      { i with transport := some t.close.1 }.absorb_tells t.close.2
    simp only [told]
    have heard := Journal.Hears.of_details details j
    split
    · split <;> exact heard
    · exact heard

/-- A round ends with a change of the stage, which may be none. -/
theorem follows_of_transition (site : Site δ) {i j : Instance} {w x : World κ} {o : Observation}
    {m : Monitor} (seen : i.observed? site w = some o) (id : j.id = i.id)
    (stage : j.stage = i.stage) (phase : m.phase = if o = .dead then .ended else .waiting)
    (stopping : m.stopping = i.monitor.stopping)
    (transport : j.transport =
      if o = .dead then i.transport.map fun t => t.close.1 else i.transport)
    (heard : w.journal.Hears (alarm i.id (some o)) x.journal) (files : x.files = w.files) :
    Follows site i w { (j.transition site (i.stage.follow o) x).1 with monitor := m }
      (j.transition site (i.stage.follow o) x).2 := by
  have changed := transition_frame site (i.stage.follow o) j x
  have told := transition_heard site (i.stage.follow o) j x
  have noted := transition_noted site (i.stage.follow o) j x
  have awake : i.isDue w ∧ ¬ i.monitor.stopping := by
    refine Decidable.byContradiction fun asleep => ?_
    rw [observed?, if_neg asleep] at seen
    cases seen
  have waits : i.monitor.phase = .waiting := (of_decide_eq_true awake.1).1
  rw [id, stage] at told noted
  rw [changed]
  exact {
    id := id
    stage := by rw [seen]; rfl
    phase := by
      rw [seen, waits, phase]
      simp [awake.2]
    stopping := stopping
    transport := by
      rw [seen]
      simpa using transport
    told := by
      rw [seen]
      exact heard.trans told
    noted := by
      rw [noted, files]
    idle := by rw [seen]; nofun }

theorem checkAlive_eq (i : Instance) (w : World κ) : ∃ c k,
    i.checkAlive w = ((i.checkAlive w).1, { i with child := c }, ⟨k, w.journal, w.files⟩) := by
  obtain ⟨c, looked⟩ := i.checkAlive_frame w
  exact ⟨c, (i.checkAlive w).2.2.kernel, by rw [← looked]; rfl⟩

theorem checkHealth_eq (s : Settings) (i : Instance) (w : World κ) : ∃ c k j,
    i.checkHealth s w = ((i.checkHealth s w).1, { i with child := c }, ⟨k, j, w.files⟩) ∧
      w.journal.Hears [] j := by
  obtain ⟨c, probed⟩ := i.checkHealth_frame s w
  refine ⟨c, (i.checkHealth s w).2.2.kernel, w.journal.note (i.probe s w.kernel).1.note,
    by rw [← probed]; rfl, ?_⟩
  rw [Journal.note_eq_tell]
  exact .of_details (by simp [IsDetail]) w.journal

theorem follows_of_dead (site : Site δ) {i : Instance} {w : World κ} (due : i.isDue w)
    (kept : i.monitor.stopping = false) (dead : (i.checkAlive w).1 = false) :
    Follows site i w (i.monitorRound site w).1 (i.monitorRound site w).2 := by
  obtain ⟨c, k, asked⟩ := i.checkAlive_eq w
  rw [dead] at asked
  have seen : i.observed? site w = some .dead := by
    rw [observed?, if_pos ⟨due, by simp [kept]⟩, asked]
  rw [monitorRound_of_dead site due kept asked]
  dsimp only
  generalize leaving : ({ i with child := c }.inPhase .abandoning) = gone
  generalize warning : World.warn _ ⟨k, w.journal, w.files⟩ = warned
  obtain ⟨r, closed⟩ := gone.disconnect_frame warned
  have alarmed : w.journal.Hears (alarm i.id (some .dead)) warned.journal :=
    ⟨alarm i.id (some .dead), by rw [← warning]; rfl, rfl⟩
  have quiet := closeTransport_heard gone warned.journal warned.kernel
  have changed := transition_frame site .stopped (gone.disconnect warned).1
    (gone.disconnect warned).2
  subst leaving
  refine follows_of_transition site seen (by rw [closed]; rfl) (by rw [closed]; rfl) rfl ?_
    (by rw [closed]; rfl) (alarmed.trans quiet) ?_
  · rw [changed, closed]
    rfl
  · rw [← warning]
    rfl

theorem follows_of_alive (site : Site δ) {i : Instance} {w : World κ} (due : i.isDue w)
    (kept : i.monitor.stopping = false) (alive : (i.checkAlive w).1 = true) :
    Follows site i w (i.monitorRound site w).1 (i.monitorRound site w).2 := by
  obtain ⟨c, k, asked⟩ := i.checkAlive_eq w
  rw [alive] at asked
  obtain ⟨c', k', j, found, heard⟩ :=
    { i with child := c }.checkHealth_eq site.settings ⟨k, w.journal, w.files⟩
  have seen : i.observed? site w = some (.probed
      ({ i with child := c }.checkHealth site.settings ⟨k, w.journal, w.files⟩).1) := by
    rw [observed?, if_pos ⟨due, by simp [kept]⟩, asked]
  rw [monitorRound_of_alive site due kept asked found]
  dsimp only
  have changed (o : Observation) := transition_frame site (i.stage.follow o)
    { i with child := c' } ⟨k', j, w.files⟩
  exact follows_of_transition site seen rfl rfl rfl (by rw [changed]) rfl heard rfl

/-- A round that observes nothing ends a monitor that was asked to stop, and does nothing else. -/
theorem monitorRound_of_asleep (site : Site δ) {i : Instance} {w : World κ}
    (resting : i.monitor.phase.isResting) (asleep : ¬ (i.isDue w ∧ ¬ i.monitor.stopping)) :
    i.monitorRound site w =
      (if i.isDue w ∧ i.monitor.stopping then i.inPhase .ended else i, w) := by
  unfold monitorRound monitorStep
  cases phase : i.monitor.phase with
  | none | ended =>
    have idle : ¬ (i.isDue w ∧ i.monitor.stopping) := by simp [isDue, phase]
    rw [if_neg (by simp), if_neg idle]
    exact monitorSteps_of_resting site roundLength w resting
  | waiting =>
    by_cases early : Kernel.now w.kernel < i.monitor.due
    · have idle : ¬ (i.isDue w ∧ i.monitor.stopping) := fun leaving =>
        Nat.not_le_of_lt early (of_decide_eq_true leaving.1).2
      rw [if_pos ⟨rfl, early⟩, if_neg idle]
    · have fired : i.monitor.phase = .waiting ∧ i.monitor.due ≤ Kernel.now w.kernel :=
        ⟨phase, Nat.le_of_not_lt early⟩
      have due : i.isDue w := decide_eq_true fired
      have asked : i.monitor.stopping := by simpa [due] using asleep
      have leaving : i.isDue w ∧ i.monitor.stopping := ⟨due, asked⟩
      rw [if_neg (fun waits => early waits.2), if_pos leaving]
      dsimp only
      rw [if_pos asked]
      exact monitorSteps_of_resting site roundLength w rfl
  | looking | probing | judging | changing | abandoning | ending =>
    rw [phase] at resting
    cases resting

theorem follows_of_asleep (site : Site δ) {i : Instance} {w : World κ}
    (resting : i.monitor.phase.isResting) (asleep : ¬ (i.isDue w ∧ ¬ i.monitor.stopping)) :
    Follows site i w (i.monitorRound site w).1 (i.monitorRound site w).2 := by
  have seen : i.observed? site w = none := by rw [observed?, if_neg asleep]
  rw [monitorRound_of_asleep site resting asleep]
  dsimp only
  have told (s : Lifecycle) (j : Journal) :
      j.Hears (alarm i.id none ++ notices i.id s s) j := by
    rw [notices, if_pos rfl]
    exact .refl j
  have noted (s : Lifecycle) (files : Files) : files = noted site i.id s s files := by
    rw [Instance.noted, if_pos rfl]
  by_cases leaving : i.isDue w ∧ i.monitor.stopping
  · rw [if_pos leaving]
    exact ⟨rfl, by rw [seen]; rfl, by rw [if_pos (.inr leaving)]; rfl, rfl, by rw [seen]; rfl,
      by rw [seen]; exact told i.stage w.journal, noted i.stage w.files, fun _ => rfl⟩
  · rw [if_neg leaving]
    exact ⟨rfl, by rw [seen]; rfl, by simp [seen, leaving], rfl, by rw [seen]; rfl,
      by rw [seen]; exact told i.stage w.journal, noted i.stage w.files, fun _ => rfl⟩

theorem monitorRound_follows (site : Site δ) {i : Instance} (w : World κ)
    (resting : i.monitor.phase.isResting) :
    Follows site i w (i.monitorRound site w).1 (i.monitorRound site w).2 := by
  by_cases awake : i.isDue w ∧ ¬ i.monitor.stopping
  · have kept : i.monitor.stopping = false := by simpa using awake.2
    cases alive : (i.checkAlive w).1 with
    | false => exact follows_of_dead site awake.1 kept alive
    | true => exact follows_of_alive site awake.1 kept alive
  · exact follows_of_asleep site resting awake

/-! ### Round after round -/

/-- What may happen to an instance between two rounds while nobody else changes its stage. -/
structure Undisturbed (i j : Instance) : Prop where
  id : j.id = i.id
  stage : j.stage = i.stage
  phase : j.monitor.phase = i.monitor.phase
  stopping : i.monitor.stopping → j.monitor.stopping
  closed : i.transport.all (·.closed) → j.transport.all (·.closed)

/-- The world in which a round is made, and what was done with the instance since the last one. -/
structure Turn (κ : Type) where
  world : World κ
  meanwhile : Instance → Instance
  undisturbed : ∀ i, Undisturbed i (meanwhile i)

/-- What a turn makes of an instance. -/
def turn (site : Site δ) (i : Instance) (t : Turn κ) : Instance :=
  ((t.meanwhile i).monitorRound site t.world).1

def afterTurns (site : Site δ) (turns : List (Turn κ)) (i : Instance) : Instance :=
  turns.foldl (turn site) i

/-- What is observed in several turns, in order. -/
def observations (site : Site δ) : List (Turn κ) → Instance → List Observation
  | [], _ => []
  | t :: turns, i =>
    ((t.meanwhile i).observed? site t.world).toList ++ observations site turns (i.turn site t)

variable {i : Instance}

theorem turn_follows (site : Site δ) (t : Turn κ) (resting : i.monitor.phase.isResting) :
    Follows site (t.meanwhile i) t.world (i.turn site t)
      ((t.meanwhile i).monitorRound site t.world).2 :=
  monitorRound_follows site t.world (by rw [(t.undisturbed i).phase]; exact resting)

theorem turn_resting (site : Site δ) (t : Turn κ) (resting : i.monitor.phase.isResting) :
    (i.turn site t).monitor.phase.isResting := by
  rw [(turn_follows site t resting).phase, (t.undisturbed i).phase]
  split
  · rfl
  · exact resting

theorem afterTurns_resting (site : Site δ) (turns : List (Turn κ))
    (resting : i.monitor.phase.isResting) :
    (i.afterTurns site turns).monitor.phase.isResting := by
  induction turns generalizing i with
  | nil => exact resting
  | cons t turns ih => exact ih (turn_resting site t resting)

theorem turn_stopping (site : Site δ) (t : Turn κ) (resting : i.monitor.phase.isResting)
    (asked : i.monitor.stopping) : (i.turn site t).monitor.stopping := by
  rw [(turn_follows site t resting).stopping]
  exact (t.undisturbed i).stopping asked

theorem afterTurns_stopping (site : Site δ) (turns : List (Turn κ))
    (resting : i.monitor.phase.isResting) (asked : i.monitor.stopping) :
    (i.afterTurns site turns).monitor.stopping := by
  induction turns generalizing i with
  | nil => exact asked
  | cons t turns ih => exact ih (turn_resting site t resting) (turn_stopping site t resting asked)

omit [Kernel κ] [Document δ] in
theorem all_closed_close (t : Option Transport) :
    (t.map fun t => t.close.1).all (·.closed) := by
  cases t with
  | none => rfl
  | some t => exact t.closed_close

theorem turn_closed (site : Site δ) (t : Turn κ) (resting : i.monitor.phase.isResting)
    (closed : i.transport.all (·.closed)) : (i.turn site t).transport.all (·.closed) := by
  rw [(turn_follows site t resting).transport]
  split
  · exact all_closed_close _
  · exact (t.undisturbed i).closed closed

theorem stage_afterTurns (site : Site δ) (turns : List (Turn κ))
    (resting : i.monitor.phase.isResting) :
    (i.afterTurns site turns).stage =
      (i.observations site turns).foldl Lifecycle.follow i.stage := by
  induction turns generalizing i with
  | nil => rfl
  | cons t turns ih =>
    have stage := (turn_follows site t resting).stage
    rw [(t.undisturbed i).stage] at stage
    refine (ih (turn_resting site t resting)).trans ?_
    rw [observations, List.foldl_append, stage]
    cases (t.meanwhile i).observed? site t.world <;> rfl

omit [Document δ] in
theorem observed?_eq_none (site : Site δ) (w : World κ)
    (leaving : i.monitor.phase = .ended ∨ i.monitor.stopping) : i.observed? site w = none := by
  refine if_neg fun awake => ?_
  rcases leaving with ended | asked
  · have waits : i.monitor.phase = .waiting := (of_decide_eq_true awake.1).1
    rw [ended] at waits
    cases waits
  · exact awake.2 asked

theorem turn_ended (site : Site δ) (t : Turn κ) (ended : i.monitor.phase = .ended) :
    (i.turn site t).monitor.phase = .ended := by
  rw [(turn_follows site t (by rw [ended]; rfl)).phase, (t.undisturbed i).phase, ended, ite_self]

theorem observations_of_leaving (site : Site δ) (turns : List (Turn κ))
    (resting : i.monitor.phase.isResting)
    (leaving : i.monitor.phase = .ended ∨ i.monitor.stopping) :
    i.observations site turns = [] := by
  induction turns generalizing i with
  | nil => rfl
  | cons t turns ih =>
    have unseen : (t.meanwhile i).observed? site t.world = none :=
      observed?_eq_none site t.world (leaving.imp (t.undisturbed i).phase.trans
        (t.undisturbed i).stopping)
    rw [observations, unseen]
    exact ih (turn_resting site t resting)
      (leaving.imp (turn_ended site t) (turn_stopping site t resting))

/-- Whether the process was found dead: the connection is closed, and the monitor has ended. -/
structure IsLost (i : Instance) : Prop where
  stage : i.stage = .stopped
  ended : i.monitor.phase = .ended
  closed : i.transport.all (·.closed)

theorem IsLost.turn {i : Instance} (lost : IsLost i) (site : Site δ) (t : Turn κ) :
    IsLost (i.turn site t) := by
  have resting : i.monitor.phase.isResting := by rw [lost.ended]; rfl
  have unseen := observed?_eq_none site t.world (i := t.meanwhile i)
    (.inl ((t.undisturbed i).phase.trans lost.ended))
  refine ⟨?_, turn_ended site t lost.ended, turn_closed site t resting lost.closed⟩
  rw [(turn_follows site t resting).stage, unseen]
  exact (t.undisturbed i).stage.trans lost.stage

theorem IsLost.afterTurns {i : Instance} (lost : IsLost i) (site : Site δ) (turns : List (Turn κ)) :
    IsLost (i.afterTurns site turns) := by
  induction turns generalizing i with
  | nil => exact lost
  | cons t turns ih => exact ih (lost.turn site t)

theorem turn_lost (site : Site δ) (t : Turn κ) (resting : i.monitor.phase.isResting)
    (dead : (t.meanwhile i).observed? site t.world = some .dead) : IsLost (i.turn site t) := by
  have follows := turn_follows site t resting
  refine ⟨by rw [follows.stage, dead]; rfl, by rw [follows.phase, if_pos (.inl dead)], ?_⟩
  rw [follows.transport, if_pos dead]
  exact all_closed_close _

/-- The first round that finds the process dead is the last that observes anything. -/
theorem observations_of_dead (site : Site δ) (turns : List (Turn κ))
    (resting : i.monitor.phase.isResting) (dead : .dead ∈ i.observations site turns) :
    IsLost (i.afterTurns site turns) ∧
      ∃ front, i.observations site turns = front ++ [.dead] ∧ .dead ∉ front := by
  induction turns generalizing i with
  | nil => cases dead
  | cons t turns ih =>
    have rests := turn_resting site t resting
    by_cases first : (t.meanwhile i).observed? site t.world = some .dead
    · have lost := turn_lost site t resting first
      have nothing := observations_of_leaving site turns rests (.inl lost.ended)
      exact ⟨lost.afterTurns site turns, [], by rw [observations, first, nothing]; rfl, by simp⟩
    · rw [observations, List.mem_append] at dead
      obtain ⟨lost, front, seen, fresh⟩ := ih rests
        (dead.resolve_left fun now => first (by simpa using now))
      refine ⟨lost, ((t.meanwhile i).observed? site t.world).toList ++ front, ?_, ?_⟩
      · rw [observations, seen, List.append_assoc]
      · simpa [first] using fresh

/-- A monitor goes on while the process is found alive and nobody asks it to stop. -/
theorem phase_afterTurns (site : Site δ) (turns : List (Turn κ))
    (waits : i.monitor.phase = .waiting)
    (alive : .dead ∉ i.observations site turns)
    (kept : (i.afterTurns site turns).monitor.stopping = false) :
    (i.afterTurns site turns).monitor.phase = .waiting := by
  induction turns generalizing i with
  | nil => exact waits
  | cons t turns ih =>
    have resting : i.monitor.phase.isResting := by rw [waits]; rfl
    have follows := turn_follows site t resting
    rw [observations, List.mem_append, not_or] at alive
    have calm : ¬ (t.meanwhile i).monitor.stopping := fun asked => by
      have stands := afterTurns_stopping site turns (turn_resting site t resting)
        (follows.stopping.trans asked)
      rw [show (i.turn site t).afterTurns site turns = i.afterTurns site (t :: turns) from rfl,
        kept] at stands
      cases stands
    refine ih ?_ alive.2 kept
    rw [follows.phase, if_neg, (t.undisturbed i).phase, waits]
    rintro (dead | leaving)
    · exact alive.1 (by simp [dead])
    · exact calm leaving.2

/-- A monitor that is asked to stop between two rounds ends at once. -/
theorem joinMonitor_of_waiting (site : Site δ) (w : World κ) (waits : i.monitor.phase = .waiting) :
    i.joinMonitor site w =
      ({ i with monitor := { i.monitor with phase := .ended, stopping := true } }, w) := by
  let asked : Instance := { i with monitor := { i.monitor with stopping := true } }
  have resting : asked.monitor.phase.isResting := by
    rw [show asked.monitor.phase = i.monitor.phase from rfl, waits]
    rfl
  change (asked.finishRound site w).1.monitorStep site (asked.finishRound site w).2 = _
  rw [finishRound, monitorSteps_of_resting site roundLength w resting, monitorStep]
  simp [asked, waits, inPhase]

/-! ### The controller -/

omit [Document δ] in
theorem readLines_undisturbed (site : Site δ) (i : Instance) (w : World κ) :
    Undisturbed i (i.readLines site w).1 := by
  obtain ⟨t, r, read⟩ := i.readLines_frame site w
  refine ⟨by rw [read], by rw [read], by rw [read], fun asked => by rw [read]; exact asked,
    fun closed => ?_⟩
  -- A connection that was closed is not read any more.
  unfold readLines readOutput
  dsimp only
  split
  · rename_i c t child present
    rw [present] at closed
    rw [if_pos (by simpa using closed)]
    simpa [present] using closed
  · exact closed

theorem attend_turns {id : Text} {c : Controller δ κ} (present : c.instance? id = some i) :
    ∃ t : Turn κ, (c.attend id).instance? id = some (i.turn c.site t) := by
  refine ⟨⟨(i.readLines c.site c.world).2, fun j => (j.readLines c.site c.world).1,
    fun j => readLines_undisturbed c.site j c.world⟩, ?_⟩
  unfold Controller.attend Controller.onInstance
  rw [present]
  unfold Controller.setInstance Controller.instance?
  rw [Controller.slot_setSlot, if_pos rfl]
  rfl

omit [Document δ] [Kernel κ] in
theorem borrow_of_instance? {id : Text} {c : Controller δ κ} (present : c.instance? id = some i) :
    c.borrow id = if i.stage = .running then .ok i else .error (notRunning id) := by
  unfold Controller.borrow
  rw [present]
  by_cases running : i.stage = .running <;> simp [Option.filter, running]

/-- The effect of a monitor is the fold of what it observes. While the process lives its rounds go
on, and each brings the instance to the stage that follows from the last one; a change of the stage
is reported and noted in the round that makes it, and only there. The first round that finds the
process dead closes the connection and is the last one, and a request to stop leaves no further
one. Between two rounds the connection is lent out if the stage is that of running, and the rounds
of the host are such turns. -/
theorem monitor_folds_observations (site : Site δ) (i : Instance) (turns : List (Turn κ))
    (waits : i.monitor.phase = .waiting) :
    let last := i.afterTurns site turns
    let seen := i.observations site turns
    last.stage = seen.foldl Lifecycle.follow i.stage ∧
    (∀ next : Turn κ, Follows site (next.meanwhile last) next.world (last.turn site next)
      ((next.meanwhile last).monitorRound site next.world).2) ∧
    (.dead ∉ seen → last.monitor.stopping = false → last.monitor.phase = .waiting) ∧
    (.dead ∈ seen → IsLost last ∧ ∃ front, seen = front ++ [.dead] ∧ .dead ∉ front) ∧
    (last.monitor.phase = .ended ∨ last.monitor.stopping →
      ∀ more : List (Turn κ), last.observations site more = []) ∧
    (last.monitor.phase = .waiting → ∀ w : World κ, last.joinMonitor site w =
      ({ last with monitor := { last.monitor with phase := .ended, stopping := true } }, w)) ∧
    ∀ (c : Controller δ κ) (id : Text), c.instance? id = some last →
      (c.borrow id = if seen.foldl Lifecycle.follow i.stage = .running then .ok last
        else .error (notRunning id)) ∧
      (c.site = site → ∃ next : Turn κ,
        (c.attend id).instance? id = some (last.turn site next)) := by
  have resting : i.monitor.phase.isResting := by rw [waits]; rfl
  have stage := stage_afterTurns site turns resting
  have rests := afterTurns_resting site turns resting
  refine ⟨stage, fun next => turn_follows site next rests, phase_afterTurns site turns waits,
    observations_of_dead site turns resting,
    fun leaving more => observations_of_leaving site more rests leaving,
    fun waiting w => joinMonitor_of_waiting site w waiting,
    fun c id present => ⟨by rw [borrow_of_instance? present, stage], fun here => ?_⟩⟩
  obtain ⟨next, attended⟩ := attend_turns present
  exact ⟨next, by rw [attended, here]⟩

/-- Nothing happens since the last round, or the provider closes its output. -/
def Turn.after (lost : Bool) (w : World κ) : Turn κ where
  world := w
  meanwhile i := { i with
    transport := i.transport.map fun t => { t with connected := t.connected && ! lost } }
  undisturbed i := ⟨rfl, rfl, rfl, fun asked => asked, by cases i.transport <;> simp⟩

/-- A provider that is well again, loses its connection, and dies. -/
theorem failing_provider_is_followed :
    let i : Instance :=
      { id := "p", child := some { pid := 7 }, transport := some {}, ring := .ofCapacity 10,
        stage := .unhealthy, monitor := { phase := .waiting } }
    let p : Process :=
      { pid := 7, group := 7, parent := Process.host, status := .running (.exit 0),
        directory := [] }
    let site : Site Roster := { settings := { probeInterval := 1 } }
    let turns : List (Turn System) :=
      [.after false ⟨{ processes := [p] }, {}, {}⟩,
       .after true ⟨{ processes := [p], clock := 1 }, {}, {}⟩,
       .after true ⟨{ clock := 2 }, {}, {}⟩]
    i.observations site turns = [.probed true, .probed false, .dead] ∧
    (i.afterTurns site (turns.take 1)).stage = .running ∧
    (i.afterTurns site (turns.take 2)).stage = .unhealthy ∧
    IsLost (i.afterTurns site turns) := by
  intro i p site turns
  have seen : i.observations site turns = [.probed true, .probed false, .dead] := rfl
  obtain ⟨well, -⟩ := monitor_folds_observations site i (turns.take 1) rfl
  obtain ⟨ill, -⟩ := monitor_folds_observations site i (turns.take 2) rfl
  obtain ⟨-, -, -, ends, -⟩ := monitor_folds_observations site i turns rfl
  exact ⟨seen, well.trans rfl, ill.trans rfl, (ends (by rw [seen]; decide)).1⟩

end Instance

end ProviderHost
