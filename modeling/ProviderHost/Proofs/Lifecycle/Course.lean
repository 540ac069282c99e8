import ProviderHost.Proofs.Lifecycle.Steps
import ProviderHost.Store.Roster
import ProviderHost.System
import Mathlib.Data.List.Induction

/-!
# The course of an instance

An instance goes back and forth between running and unhealthy until it is stopped, whatever the
order in which the threads take their steps. The monitor reads the stage and changes it in two
steps; nothing comes between the two because whoever ends an instance waits for its monitor
before recording the end.
-/

namespace ProviderHost

/-- The changes of stage that a listed instance goes through. -/
inductive Lifecycle.LeadsTo : Lifecycle → Lifecycle → Prop where
  | sickens : LeadsTo .running .unhealthy
  | recovers : LeadsTo .unhealthy .running
  | ends : LeadsTo .running .stopped
  | abandoned : LeadsTo .unhealthy .stopped

def Lifecycle.IsServing (s : Lifecycle) : Prop := s = .running ∨ s = .unhealthy

theorem Lifecycle.IsServing.leadsTo_stopped {s : Lifecycle} (serving : s.IsServing) :
    s.LeadsTo .stopped := by
  rcases serving with rfl | rfl
  · exact .ends
  · exact .abandoned

theorem Lifecycle.judge?_eq_some {s next : Lifecycle} {healthy : Bool}
    (judged : s.judge? healthy = some next) : next.IsServing ∧ s.LeadsTo next := by
  cases s <;> cases healthy <;> cases judged
  · exact ⟨.inr rfl, .sickens⟩
  · exact ⟨.inl rfl, .recovers⟩

namespace Instance

variable {δ κ : Type} [Document δ] [Kernel κ]

/-- An instance with a monitor at work: what the monitor is about to change, it has judged by the
stage that is still there. -/
structure Watched (i : Instance) : Prop where
  serving : i.stage.IsServing
  active : i.monitor.phase.isOver = false
  judged : ∀ next, i.monitor.phase = .changing next → ∃ healthy, i.stage.judge? healthy = some next

/-- An instance as the threads keep it: it is watched, waits for its monitor to be started, has
lost its monitor, or is stopped and has no monitor any more. -/
structure Coherent (i : Instance) : Prop where
  stage : i.stage.IsServing ∨ i.stage = .stopped
  judged : ∀ next, i.monitor.phase = .changing next → ∃ healthy, i.stage.judge? healthy = some next
  stopped : i.stage = .stopped → i.monitor.phase.isOver

theorem Watched.coherent {i : Instance} (watched : i.Watched) : i.Coherent where
  stage := .inl watched.serving
  judged := watched.judged
  stopped stopped := by rcases watched.serving with h | h <;> simp_all

theorem Coherent.serving {i : Instance} (coherent : i.Coherent)
    (active : i.monitor.phase.isOver = false) : i.stage.IsServing := by
  rcases coherent.stage with serving | stopped
  · exact serving
  · rw [coherent.stopped stopped] at active
    cases active

/-- An instance in use whose monitor changes nothing is coherent. -/
theorem coherent_of_serving {i : Instance} (serving : i.stage.IsServing)
    (steady : ∀ next, i.monitor.phase ≠ .changing next) : i.Coherent where
  stage := .inl serving
  judged next changing := absurd changing (steady next)
  stopped stopped := by rcases serving with h | h <;> simp_all

/-- A step of the monitor takes a coherent instance to a coherent one, by one of the changes. -/
theorem Ticked.course {i j : Instance} (ticked : Ticked i j) (coherent : i.Coherent)
    (active : i.monitor.phase.isOver = false) :
    j.Coherent ∧ (j.stage = i.stage ∨ i.stage.LeadsTo j.stage) := by
  have serving := coherent.serving active
  cases ticked with
  | none finished =>
    rw [finished] at active
    cases active
  | woken =>
    refine ⟨coherent_of_serving serving fun next => ?_, .inl rfl⟩
    dsimp only [inPhase]
    split <;> rintro ⟨⟩
  | looked _ alive => cases alive <;> exact ⟨coherent_of_serving serving (by rintro _ ⟨⟩), .inl rfl⟩
  | probed | kept | abandoned =>
    exact ⟨coherent_of_serving serving (by rintro _ ⟨⟩), .inl rfl⟩
  | @judged healthy next phase judged =>
    refine ⟨⟨.inl serving, fun _ changing => ?_, fun stopped => ?_⟩, .inl rfl⟩
    · cases changing
      exact ⟨healthy, judged⟩
    · exact absurd stopped (by rcases serving with h | h <;> simp [inPhase, h])
  | changed phase =>
    -- The stage is still the one that was judged, and so the change is one of those.
    obtain ⟨healthy, judged⟩ := coherent.judged _ phase
    obtain ⟨serves, leads⟩ := Lifecycle.judge?_eq_some judged
    exact ⟨coherent_of_serving serves (by rintro _ ⟨⟩), .inr leads⟩
  | ended => exact ⟨⟨.inr rfl, by rintro _ ⟨⟩, fun _ => rfl⟩, .inr serving.leadsTo_stopped⟩

end Instance

namespace Threads

variable {δ κ : Type} [Document δ] [Kernel κ]

/-- What every step of the threads preserves. -/
structure Sound (t : Threads κ) : Prop where
  coherent : ∀ {n : Nat} {i : Instance}, t.instances[n]? = some i → i.Coherent
  joined : ∀ {n : Nat} {i : Instance}, t.IsJoined n → t.instances[n]? = some i →
    i.monitor.phase.isOver
  /-- An instance has no monitor, and runs, until its monitor is started. -/
  fresh : ∀ {n : Nat} {i : Instance}, t.errand = .watching n → t.instances[n]? = some i →
    i.stage = .running ∧ i.monitor.phase = .none

variable {site : Site δ} {id : Text} {t t' : Threads κ} {e : ThreadEvent κ} {n : Nat}
  {i i' : Instance}

theorem Touch.finished (touched : Touch site t e n i i') (finished : i.monitor.phase.isOver)
    (unwatched : t.errand ≠ .watching n) : i'.monitor.phase.isOver := by
  cases touched with
  | spared _ monitor => rw [monitor, finished]
  | monitored _ active =>
    rw [finished] at active
    cases active
  | flagged => exact finished
  | settled => exact finished
  | watched _ errand => exact absurd errand unwatched

theorem Touch.course (touched : Touch site t e n i i') (sound : t.Sound)
    (present : t.instances[n]? = some i) :
    i'.Coherent ∧ (i'.stage = i.stage ∨ i.stage.LeadsTo i'.stage) := by
  have coherent := sound.coherent present
  cases touched with
  | spared stage monitor =>
    refine ⟨⟨?_, ?_, ?_⟩, .inl stage⟩ <;> rw [stage]
    · exact coherent.stage
    · rw [monitor]
      exact coherent.judged
    · rw [monitor]
      exact coherent.stopped
  | monitored _ active => exact (Instance.monitorStep_ticked site _ t.world).course coherent active
  | flagged => exact ⟨⟨coherent.stage, coherent.judged, coherent.stopped⟩, .inl rfl⟩
  | @settled _ cause errand =>
    have finished := sound.joined ⟨cause, .settling, errand, rfl⟩ present
    refine ⟨⟨.inr rfl, fun next changing => ?_, fun _ => finished⟩, ?_⟩
    · rw [changing] at finished
      cases finished
    · rcases coherent.stage with serving | stopped
      · exact .inr serving.leadsTo_stopped
      · exact .inl stopped.symm
  | watched _ errand =>
    have running := (sound.fresh errand present).1
    exact ⟨Instance.coherent_of_serving (.inl running) (by rintro _ ⟨⟩), .inl rfl⟩

/-- An instance of the state after a step was there before, or it is new. -/
theorem step_origin (taken : t.step site id e = some t') (present : t'.instances[n]? = some i') :
    (∃ i, t.instances[n]? = some i ∧ Touch site t e n i i') ∨
      t'.errand = .watching n ∧ i'.stage = .running ∧ i'.monitor = {} := by
  cases before : t.instances[n]? with
  | some i =>
    obtain ⟨i'', after, touched⟩ := step_touch taken before
    rw [after] at present
    cases present
    exact .inl ⟨i, rfl, touched⟩
  | none =>
    have beyond := List.getElem?_eq_none_iff.mp before
    have bound := (List.getElem?_eq_some_iff.mp present).1
    rcases step_instances taken with ⟨length, -⟩ | ⟨i, w, rfl, stage, monitor⟩
    · omega
    · have last : n = t.instances.length := by
        rw [enlist, List.length_append, List.length_singleton] at bound
        omega
      subst last
      rw [enlist, List.getElem?_concat_length] at present
      cases present
      exact .inr ⟨rfl, stage, monitor⟩

theorem step_sound (sound : t.Sound) (taken : t.step site id e = some t') : t'.Sound where
  coherent present := by
    rcases step_origin taken present with ⟨i, before, touched⟩ | ⟨-, stage, monitor⟩
    · exact (touched.course sound before).1
    · exact Instance.coherent_of_serving (.inl stage) (by rw [monitor]; rintro _ ⟨⟩)
  joined {n i'} joined present := by
    rcases step_origin taken present with ⟨i, before, touched⟩ | ⟨watching, -⟩
    · rcases step_joined taken joined with
        ⟨cause, step, errand, past⟩ | ⟨cause, j, errand, same, finished⟩
      · have finished := sound.joined ⟨cause, step, errand, past⟩ before
        exact touched.finished finished (by rw [errand]; rintro ⟨⟩)
      · rw [before] at same
        cases same
        exact touched.finished finished (by rw [errand]; rintro ⟨⟩)
    · obtain ⟨cause, step, errand, -⟩ := joined
      rw [watching] at errand
      cases errand
  fresh {n i'} watching present := by
    rcases step_origin taken present with ⟨i, before, touched⟩ | ⟨-, stage, monitor⟩
    · have bound := (List.getElem?_eq_some_iff.mp before).1
      rcases step_instances taken with ⟨-, old⟩ | ⟨i, w, rfl, -⟩
      · obtain ⟨errand, other⟩ := old n watching
        obtain ⟨running, phase⟩ := sound.fresh errand before
        cases touched with
        | spared stage monitor => exact ⟨stage.trans running, by rw [monitor, phase]⟩
        | monitored _ active =>
          rw [phase] at active
          cases active
        | flagged => exact ⟨running, phase⟩
        | settled event => exact absurd event other
        | watched event => exact absurd event other
      · cases watching
        omega
    · exact ⟨stage, by rw [monitor]⟩

/-- Instance `n` was started and its monitor is over, so it never takes a step again. -/
def IsRetired (n : Nat) (t : Threads κ) : Prop :=
  t.errand ≠ .watching n ∧ ∃ i, t.instances[n]? = some i ∧ i.monitor.phase.isOver

theorem step_retired (retired : t.IsRetired n) (taken : t.step site id e = some t') :
    t'.IsRetired n := by
  obtain ⟨unwatched, i, before, finished⟩ := retired
  obtain ⟨i', after, touched⟩ := step_touch taken before
  refine ⟨fun watching => ?_, i', after, touched.finished finished unwatched⟩
  have bound := (List.getElem?_eq_some_iff.mp before).1
  rcases step_instances taken with ⟨-, old⟩ | ⟨i, w, rfl, -⟩
  · exact unwatched (old n watching).1
  · cases watching
    omega

theorem IsRetired.monitor_rests (retired : t.IsRetired n) :
    t.step site id (.monitor n) = none := by
  obtain ⟨-, i, present, finished⟩ := retired
  simp [step, present, finished]

/-- The holder of the lock that goes on from the wait for a monitor has retired the instance. -/
theorem work_retires {cause : EndCause} {step : EndStep} (sound : t.Sound)
    (errand : t.errand = .ending cause n step) (begun : step ≠ .flagging)
    (taken : t.step site id .work = some t') : t'.IsRetired n := by
  have ending := taken
  simp only [Threads.step, work, errand] at ending
  obtain ⟨i, before, ended⟩ := Option.bind_eq_some_iff.mp ending
  obtain ⟨waited, listed, rfl⟩ := endStep_eq_some ended
  have finished : i.monitor.phase.isOver := by
    by_cases joining : step = .joining
    · exact waited joining
    · exact sound.joined ⟨cause, step, errand, by cases step <;> simp_all [EndStep.isJoined]⟩ before
  obtain ⟨i', present, touched⟩ := step_touch taken before
  refine ⟨?_, i', present, touched.finished finished (by rw [errand]; rintro ⟨⟩)⟩
  cases step <;> cases cause <;> rintro ⟨⟩

theorem step_stage {s : Lifecycle} (sound : t.Sound) (taken : t.step site id e = some t')
    (staged : t.stage? n = some s) : ∃ s', t'.stage? n = some s' ∧ (s' = s ∨ s.LeadsTo s') := by
  obtain ⟨i, before, rfl⟩ := Option.map_eq_some_iff.mp staged
  obtain ⟨i', after, touched⟩ := step_touch taken before
  exact ⟨i'.stage, by rw [stage?, after, Option.map_some], (touched.course sound before).2⟩

theorem step_stopped (sound : t.Sound) (taken : t.step site id e = some t')
    (stopped : t.stage? n = some .stopped) : t'.stage? n = some .stopped := by
  obtain ⟨s', after, rfl | leads⟩ := step_stage sound taken stopped
  · exact after
  · cases leads

/-! ### Runs -/

variable {events : List (ThreadEvent κ)}

theorem run_concat :
    t.run site id (events ++ [e]) = (t.run site id events).bind (·.step site id e) := by
  simp [run, List.foldlM_append, bind]

theorem run_preserves {P : Threads κ → Prop}
    (kept : ∀ {t t' : Threads κ} {e}, P t → t.step site id e = some t' → P t') (first : P t)
    (ran : t.run site id events = some t') : P t' := by
  induction events generalizing t with
  | nil =>
    cases ran
    exact first
  | cons e events ih =>
    obtain ⟨between, taken, rest⟩ := Option.bind_eq_some_iff.mp ran
    exact ih (kept first taken) rest

theorem run_sound (sound : t.Sound) (ran : t.run site id events = some t') : t'.Sound :=
  run_preserves step_sound sound ran

theorem run_stopped (sound : t.Sound) (ran : t.run site id events = some t')
    (stopped : t.stage? n = some .stopped) : t'.stage? n = some .stopped :=
  (run_preserves (P := fun t => t.Sound ∧ t.stage? n = some .stopped)
    (fun ⟨sound, stopped⟩ taken => ⟨step_sound sound taken, step_stopped sound taken stopped⟩)
    ⟨sound, stopped⟩ ran).2

theorem IsRetired.not_monitored (retired : t.IsRetired n) (ran : t.run site id events = some t') :
    .monitor n ∉ events := by
  induction events generalizing t with
  | nil => exact nofun
  | cons e events ih =>
    obtain ⟨between, taken, rest⟩ := Option.bind_eq_some_iff.mp ran
    intro member
    rcases List.mem_cons.mp member with rfl | later
    · cases retired.monitor_rests.symm.trans taken
    · exact ih (step_retired retired taken) rest later

/-! ### Callers that borrow -/

variable {caller : Nat} {place : Option Nat}

/-- What a caller has found it has just read in the list, or it had found it before. -/
theorem step_found (taken : t.step site id e = some t') (found : t'.found caller = some place) :
    e = .find caller ∧ t.listed = place ∨ t.found caller = some place ∧ e ≠ .borrow caller := by
  cases step_cases taken with
  | outside | traffic | monitor | released => exact .inr ⟨found, by rintro ⟨⟩⟩
  | taken event =>
    refine .inr ⟨found, ?_⟩
    rintro rfl
    rcases event with event | event <;> cases event
  | worked worked => cases worked <;> exact .inr ⟨found, by rintro ⟨⟩⟩
  | looked other =>
    by_cases same : caller = other
    · subst same
      exact .inl ⟨rfl, by simpa using found⟩
    · exact .inr ⟨by simpa [same] using found, by rintro ⟨⟩⟩
  | borrowed other =>
    by_cases same : caller = other
    · simp [same] at found
    · refine .inr ⟨by simpa [same] using found, ?_⟩
      rintro ⟨⟩
      exact same rfl

/-- What a caller has found after a run, the list held when the caller last looked into it. -/
theorem run_found (nobody : t.found caller = none) (ran : t.run site id events = some t')
    (found : t'.found caller = some place) :
    ∃ earlier later between, events = earlier ++ .find caller :: later ∧
      .borrow caller ∉ later ∧ t.run site id earlier = some between ∧ between.listed = place := by
  -- The last step of the run tells whether the caller has looked just now, or before it.
  induction events using List.reverseRecOn generalizing t' with
  | nil =>
    cases ran
    rw [nobody] at found
    cases found
  | append_singleton events e ih =>
    rw [run_concat] at ran
    obtain ⟨before, first, taken⟩ := Option.bind_eq_some_iff.mp ran
    rcases step_found taken found with ⟨rfl, listed⟩ | ⟨found, other⟩
    · exact ⟨events, [], before, rfl, nofun, first, listed⟩
    · obtain ⟨earlier, later, between, rfl, kept, start, listed⟩ := ih first found
      refine ⟨earlier, later ++ [e], between, by simp, ?_, start, listed⟩
      simpa [kept] using other.symm

omit [Document δ] [Kernel κ] in
theorem answer_eq_ok (found : t.found caller = some place) :
    t.answer id caller = .ok n ↔ place = some n ∧ t.stage? n = some .running := by
  unfold answer
  rw [found]
  cases place with
  | none => simp
  | some m =>
    by_cases running : t.stage? m = some .running
    · simp only [running, if_true, Except.ok.injEq, Option.some.injEq]
      exact ⟨fun same => ⟨same, same ▸ running⟩, And.left⟩
    · simp only [running, if_false, Option.some.injEq]
      exact ⟨nofun, fun ⟨same, runs⟩ => absurd (same ▸ runs) running⟩

omit [Document δ] [Kernel κ] in
theorem answer_eq_error {fault : Fault} (refused : t.answer id caller = .error fault) :
    fault = notRunning id := by
  unfold answer at refused
  split at refused
  · split at refused <;> cases refused
    rfl
  · cases refused
    rfl

/-- Nobody is at work but the monitors of the instances, if there are any. -/
structure Opening (t : Threads κ) : Prop where
  idle : t.errand = .idle
  nobody : ∀ caller, t.found caller = none
  watched : ∀ i ∈ t.instances, i.Watched

omit [Document δ] [Kernel κ] in
theorem Opening.sound (opening : t.Opening) : t.Sound where
  coherent present := (opening.watched _ (List.mem_of_getElem? present)).coherent
  joined joined _ := by
    obtain ⟨_, _, errand, -⟩ := joined
    cases opening.idle.symm.trans errand
  fresh watching _ := by cases opening.idle.symm.trans watching

/-- However the threads take their turns: a step changes the stage of an instance by one of the
changes or not at all; a stopped instance stays so; the monitor of an instance takes no step any
more from the moment when the thread that ends the instance gets past the wait for it; and a
caller is lent an instance exactly if that was the one in the list when the caller looked, and
runs when the caller reads its stage. -/
theorem instances_keep_their_course {t x y z : Threads κ} {before after : List (ThreadEvent κ)}
    (opening : t.Opening) (past : t.run site id before = some x)
    (taken : x.step site id e = some y) (future : y.run site id after = some z) :
    (∀ n s, x.stage? n = some s → ∃ s', y.stage? n = some s' ∧ (s' = s ∨ s.LeadsTo s')) ∧
    (∀ n, x.stage? n = some .stopped → z.stage? n = some .stopped) ∧
    (∀ cause n step, x.errand = .ending cause n step → step ≠ .flagging → e = .work →
      .monitor n ∉ after) ∧
    (∀ caller, e = .borrow caller →
      ∃ earlier later looked, before = earlier ++ .find caller :: later ∧
        .borrow caller ∉ later ∧ t.run site id earlier = some looked ∧
        (∀ n, x.answer id caller = .ok n ↔
          looked.listed = some n ∧ x.stage? n = some .running) ∧
        (∀ fault, x.answer id caller = .error fault → fault = notRunning id)) := by
  have sound := run_sound opening.sound past
  refine ⟨fun n s staged => step_stage sound taken staged, fun n stopped => ?_,
    fun cause n step errand begun event => ?_, fun caller event => ?_⟩
  · exact run_stopped (step_sound sound taken) future (step_stopped sound taken stopped)
  · subst event
    exact (work_retires sound errand begun taken).not_monitored future
  · subst event
    obtain ⟨place, found, -⟩ := Option.map_eq_some_iff.mp taken
    obtain ⟨earlier, later, looked, split, kept, ran, listed⟩ :=
      run_found (opening.nobody caller) past found
    refine ⟨earlier, later, looked, split, kept, ran, fun n => ?_, fun fault => answer_eq_error⟩
    rw [listed, answer_eq_ok found]

/-- A network provider that answers no probe. -/
def unreachable : Instance :=
  { id := "remote", kind := .network, ring := .ofCapacity 8, stage := .running
    monitor := { phase := .waiting } }

omit [Kernel κ] in
theorem opening_around_unreachable (w : World κ) : (around unreachable w).Opening where
  idle := rfl
  nobody _ := rfl
  watched i member := by
    rcases List.mem_singleton.mp member with rfl
    exact ⟨.inl rfl, rfl, nofun⟩

/-- A stop comes while the monitor is about to change the stage of a provider. -/
def lateStop : List (ThreadEvent System) :=
  [.find 0, .monitor 0, .monitor 0, .monitor 0, .monitor 0, .stop, .work, .monitor 0, .monitor 0]

/-- The stop waits until the change is made, and ends an unhealthy instance without its monitor.
The caller that had found the instance while it ran is refused. -/
theorem stop_waits_for_the_change :
    ∃ x y z : Threads System,
      (around unreachable ⟨{}, {}, {}⟩).run ({} : Site Roster) "remote" lateStop = some x ∧
      x.step ({} : Site Roster) "remote" .work = some y ∧
      y.run ({} : Site Roster) "remote" [.work, .work, .work, .work, .work] = some z ∧
      x.stage? 0 = some .unhealthy ∧ z.stage? 0 = some .stopped ∧
      z.answer "remote" 0 = .error (notRunning "remote") ∧
      ThreadEvent.monitor 0 ∉ [.work, .work, .work, .work, (.work : ThreadEvent System)] := by
  refine ⟨_, _, _, rfl, rfl, rfl, rfl, rfl, rfl, ?_⟩
  have course := @instances_keep_their_course Roster System _ _ {} "remote" .work
    (around unreachable ⟨{}, {}, {}⟩) _ _ _ lateStop [.work, .work, .work, .work, .work]
    (opening_around_unreachable _) rfl rfl rfl
  exact course.2.2.1 .stop 0 .joining rfl nofun rfl

end Threads

end ProviderHost
