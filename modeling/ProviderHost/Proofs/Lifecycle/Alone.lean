import ProviderHost.Proofs.Lifecycle.Stopping
import ProviderHost.Proofs.Lifecycle.Threads

/-!
# Operations with nobody else at work

The operations of the controller take place at once. Each of them is a run of the threads in which
no other thread gets a turn, except that the monitor finishes its round where it is waited for. So
what holds of all runs holds of the controller.
-/

namespace ProviderHost

/-- Whether some events, none of them barred, lead from one state of a machine to another. -/
def Passage {σ ε : Type} (step : σ → ε → Option σ) (barred : ε → Bool) (s s' : σ) : Prop :=
  ∃ events : List ε, (∀ e ∈ events, barred e = false) ∧ events.foldlM step s = some s'

namespace Passage

variable {σ ε : Type} {step : σ → ε → Option σ} {barred : ε → Bool} {s s' s'' : σ} {e : ε}

theorem refl (s : σ) : Passage step barred s s := ⟨[], by simp, rfl⟩

theorem of_step (taken : step s e = some s') (free : barred e = false) :
    Passage step barred s s' :=
  ⟨[e], by simpa using free, by simp [taken]⟩

theorem trans (first : Passage step barred s s') (second : Passage step barred s' s'') :
    Passage step barred s s'' := by
  obtain ⟨events, free, ran⟩ := first
  obtain ⟨more, free', rest⟩ := second
  refine ⟨events ++ more, fun e member => ?_, ?_⟩
  · exact (List.mem_append.mp member).elim (free e) (free' e)
  · rw [List.foldlM_append, ran]
    exact rest

end Passage

namespace Threads

variable {δ κ : Type} [Document δ] [Kernel κ]

/-- Whether the threads get from one state to another while nobody takes the lock. -/
abbrev Reaches (site : Site δ) (id : Text) : Threads κ → Threads κ → Prop :=
  Passage (fun t e => t.step site id e) ThreadEvent.takesLock

/-- Whether taking the lock leads from one state to another, when nobody else takes it. -/
def Serves (site : Site δ) (id : Text) (e : ThreadEvent κ) (t t' : Threads κ) : Prop :=
  ∃ begun, t.step site id e = some begun ∧ Reaches site id begun t'

variable {site : Site δ} {id : Text} {t t' : Threads κ} {e : ThreadEvent κ} {n : Nat}

theorem Reaches.step (taken : t.step site id e = some t')
    (quiet : e.takesLock = false := by rfl) : Reaches site id t t' := .of_step taken quiet

/-! ### Work on one instance -/

/-- The threads with what was made of instance `n`, and with the list and the errand as given. -/
def turn (n : Nat) (made : Instance × World κ) (listed : Option Nat) (errand : Errand)
    (t : Threads κ) : Threads κ :=
  { t.put n made with listed := listed, errand := errand }

variable {made : Instance × World κ} {listed : Option Nat} {errand : Errand} {i : Instance}

omit [Document δ] [Kernel κ] in
theorem getElem?_turn (bound : n < t.instances.length) :
    (t.turn n made listed errand).instances[n]? = some made.1 := by
  simp [turn, put, bound]

omit [Document δ] [Kernel κ] in
theorem turn_turn (made : Instance × World κ) (listed : Option Nat) (errand : Errand)
    (made' : Instance × World κ) (listed' : Option Nat) (errand' : Errand) :
    (t.turn n made listed errand).turn n made' listed' errand' =
      t.turn n made' listed' errand' := by
  simp [turn, put]

omit [Document δ] [Kernel κ] in
theorem put_self (present : t.instances[n]? = some i) : t.put n (i, t.world) = t := by
  obtain ⟨bound, rfl⟩ := List.getElem?_eq_some_iff.mp present
  simp [put]

theorem reaches_monitorStep (bound : n < t.instances.length) (made : Instance × World κ) :
    Reaches site id (t.turn n made listed errand)
      (t.turn n (made.1.monitorStep site made.2) listed errand) := by
  cases active : made.1.monitor.phase.isOver with
  | true =>
    rw [Instance.monitorStep_of_over site _ active]
    exact .refl _
  | false =>
    refine .step (e := .monitor n) ?_
    simp only [Threads.step, getElem?_turn bound, Option.bind_some, active]
    exact congrArg some (turn_turn made listed errand _ _ _)

theorem reaches_monitorSteps (bound : n < t.instances.length) (count : Nat)
    (made : Instance × World κ) :
    Reaches site id (t.turn n made listed errand)
      (t.turn n (made.1.monitorSteps site count made.2) listed errand) := by
  induction count generalizing made with
  | zero => exact .refl _
  | succ count ih =>
    unfold Instance.monitorSteps
    split
    · exact .refl _
    · exact (reaches_monitorStep bound made).trans (ih _)

theorem reaches_monitorRound (bound : n < t.instances.length) (made : Instance × World κ) :
    Reaches site id (t.turn n made listed errand)
      (t.turn n (made.1.monitorRound site made.2) listed errand) := by
  unfold Instance.monitorRound
  split
  · exact .refl _
  · exact (reaches_monitorStep bound made).trans
      (reaches_monitorSteps bound Instance.roundLength _)

theorem reaches_endStep {cause : EndCause} {step : EndStep} (bound : n < t.instances.length)
    (free : step = .joining → made.1.monitor.phase.isOver) (other : step ≠ .unlisting) :
    Reaches site id (t.turn n made listed (.ending cause n step))
      (t.turn n (step.act site cause made.1 made.2) listed
        ((step.next?.map (.ending cause n)).getD cause.errand)) := by
  have present : (t.turn n made listed (.ending cause n step)).instances[n]? = some made.1 :=
    getElem?_turn bound
  refine .step (e := .work) ?_
  simp only [Threads.step, work, turn] at present ⊢
  rw [present, Option.bind_some, endStep, if_neg fun ⟨joining, active⟩ => active (free joining),
    if_neg fun ⟨unlisting, _⟩ => other unlisting]
  exact congrArg some (turn_turn made listed (.ending cause n step) _ _ _)

theorem reaches_unlisted {cause : EndCause} (bound : n < t.instances.length) :
    Reaches site id (t.turn n made (some n) (.ending cause n .unlisting))
      (t.turn n made none (.ending cause n .dismissing)) := by
  have present : (t.turn n made (some n) (.ending cause n .unlisting)).instances[n]? =
      some made.1 := getElem?_turn bound
  refine .step (e := .work) ?_
  simp only [Threads.step, work, turn] at present ⊢
  rw [present, Option.bind_some, endStep, if_neg nofun, if_pos ⟨rfl, rfl⟩]
  exact congrArg some (turn_turn made (some n) (.ending cause n .unlisting) _ _ _)

theorem reaches_joined (bound : n < t.instances.length) (i : Instance) (w : World κ) :
    Reaches site id
      (t.turn n ({ i with monitor := { i.monitor with stopping := true } }, w) listed errand)
      (t.turn n (i.joinMonitor site w) listed errand) :=
  (reaches_monitorSteps bound Instance.roundLength _).trans (reaches_monitorStep bound _)

/-- Ending an instance is a run: nobody else has to do anything but its monitor. -/
theorem reaches_retired (bound : n < t.instances.length) (cause : EndCause) (i : Instance)
    (w : World κ) :
    Reaches site id (t.turn n (i, w) (some n) (.ending cause n .flagging))
      (t.turn n (i.retire site cause.isGraceful .stopped w) none cause.errand) := by
  have finished := i.joinMonitor_over site w
  -- The monitor gets its turns between the flag and the join, and nobody else at any time.
  refine (reaches_endStep bound (by nofun) (by nofun)).trans ?_
  refine (reaches_joined bound i w).trans ?_
  refine (reaches_endStep bound (fun _ => finished) (by nofun)).trans ?_
  refine (reaches_unlisted bound).trans ?_
  refine (reaches_endStep bound (by nofun) (by nofun)).trans ?_
  refine (reaches_endStep bound (by nofun) (by nofun)).trans ?_
  refine (reaches_endStep bound (by nofun) (by nofun)).trans ?_
  exact reaches_endStep bound (by nofun) (by nofun)

theorem reaches_released (bound : n < t.instances.length) (free : errand.subject? = none) :
    Reaches site id (t.turn n made none errand)
      (t.turn n (made.1.releaseChild made.2) none errand) := by
  have present : (t.turn n made none errand).instances[n]? = some made.1 := getElem?_turn bound
  have forgotten : (t.turn n made none errand).isForgotten n := by simp [isForgotten, turn, free]
  refine .step (e := .release n) ?_
  simp only [Threads.step, present, Option.bind_some, forgotten, if_true]
  exact congrArg some (turn_turn made none errand _ _ _)

/-- Taking an instance out is a run, whoever wants to be rid of it. -/
theorem reaches_takenOut (c : Controller δ κ) (bound : n < t.instances.length) (cause : EndCause)
    (i : Instance) :
    Reaches c.site id (t.turn n (i, c.world) (some n) (.ending cause n .flagging))
      (t.turn n ((c.takeOut id cause.isGraceful i).1, (c.takeOut id cause.isGraceful i).2.world)
        none cause.errand) :=
  (reaches_retired bound cause i c.world).trans
    (reaches_released bound (by cases cause <;> rfl))

/-! ### The operations of the controller -/

/-- The threads stand for a controller, as far as one provider goes, with nobody at work. -/
structure Portrays (id : Text) (c : Controller δ κ) (t : Threads κ) : Prop where
  idle : t.errand = .idle
  world : t.world = c.world
  live : t.live? = c.instance? id
  bound : ∀ n, t.listed = some n → n < t.instances.length

variable {c : Controller δ κ}

omit [Document δ] [Kernel κ] in
theorem Portrays.unlisted (portrays : Portrays id c t) (absent : c.instance? id = none) :
    t.listed = none := by
  have live := portrays.live
  cases listed : t.listed with
  | none => rfl
  | some n =>
    rw [absent, live?, listed, Option.bind_some,
      List.getElem?_eq_getElem (portrays.bound n listed)] at live
    cases live

omit [Document δ] [Kernel κ] in
theorem Portrays.place (portrays : Portrays id c t) (present : c.instance? id = some i) :
    ∃ n, t.listed = some n ∧ t.instances[n]? = some i :=
  Option.bind_eq_some_iff.mp (portrays.live.trans present)

omit [Document δ] [Kernel κ] in
theorem portrays_without {c : Controller δ κ} {t : Threads κ} (idle : t.errand = .idle)
    (world : t.world = c.world) (listed : t.listed = none) (absent : c.instance? id = none) :
    Portrays id c t where
  idle := idle
  world := world
  live := by rw [live?, listed, absent, Option.bind_none]
  bound n present := by
    rw [listed] at present
    cases present

theorem stop_reaches (portrays : Portrays id c t) :
    ∃ t', Serves c.site id .stop t t' ∧ Portrays id (c.stop id) t' := by
  cases present : c.instance? id with
  | none =>
    have unchanged : c.stop id = c := by
      rw [Controller.stop, Controller.halt_eq, Controller.evict_of_none present]
    have listed := portrays.unlisted present
    rw [unchanged]
    exact ⟨t, ⟨t, by simp [step, portrays.idle, listed], .refl t⟩, portrays⟩
  | some i =>
    obtain ⟨n, listed, place⟩ := portrays.place present
    have bound := portrays.bound n listed
    let told : Controller δ κ := { c with world := c.world.info ("stopping provider " ++ id) }
    have begun : t.step c.site id .stop =
        some (t.turn n (i, told.world) (some n) (.ending .stop n .flagging)) := by
      have kept : t.instances.set n i = t.instances := congrArg Threads.instances (put_self place)
      simp only [step, portrays.idle, listed, if_true, portrays.world, turn, put, kept, told]
    refine ⟨_, ⟨_, begun, reaches_takenOut told bound .stop i⟩, ?_⟩
    refine portrays_without rfl ?_ rfl (by simp [Controller.instance?_stop])
    simp only [Controller.stop, Controller.halt_eq, Controller.evict, present]
    rfl

theorem reaches_watched (present : t.instances[n]? = some i) (errand : t.errand = .watching n) :
    Reaches site id t
      (t.turn n (i.startMonitor site.settings t.world, t.world.info (Controller.welcome i))
        t.listed .idle) := by
  refine .step (e := .work) ?_
  simp only [step, work, errand, present, Option.map_some]
  rfl

theorem adopt_of_none (absent : c.instance? i.id = none) :
    c.adopt i = c.setSlot i.id { c.slot i.id with live := some i, past := none } := by
  unfold Controller.adopt
  rw [absent]

/-- The controller after an attempt that succeeded: the new instance is there with its monitor. -/
theorem launch_started {d : Definition} {note : Text} {w : World κ}
    (started : Instance.attempt c.site d c.world = (.ok note, i, w))
    (absent : c.instance? d.id = none) :
    (c.launch d).2.instance? d.id = some (i.startMonitor c.site.settings w) ∧
      (c.launch d).2.world = w.info (Controller.welcome i) := by
  obtain ⟨same, -, -, -⟩ := Instance.attempt_started started
  have watched : (i.startMonitor c.site.settings w).id = i.id := rfl
  have free : Controller.instance? (i.startMonitor c.site.settings w).id { c with world := w } =
      none := (congrArg (fun id => c.instance? id) same).trans absent
  unfold Controller.launch
  rw [started]
  dsimp only
  rw [adopt_of_none free]
  refine ⟨?_, rfl⟩
  rw [Controller.instance?, Controller.slot_setSlot, if_pos same, Controller.slot_setSlot,
    if_pos watched]

theorem launch_reaches (errand : t.errand = .launching) (world : t.world = c.world)
    (listed : t.listed = none) (absent : c.instance? id = none) :
    ∃ t', Reaches c.site id t t' ∧ Portrays id (c.startAnew id).2 t' := by
  have begun : Reaches c.site id t (t.launch c.site id) :=
    .step (e := .work) (by simp [step, work, errand])
  unfold launch at begun
  unfold Controller.startAnew
  rw [world] at begun
  cases read : Store.get δ id c.world.files c.site.registry with
  | error cause =>
    rw [read] at begun
    exact ⟨_, begun, portrays_without rfl rfl listed absent⟩
  | ok d =>
    have same := Store.id_of_get read
    subst same
    rw [read] at begun
    dsimp only at begun ⊢
    rcases tried : Instance.attempt c.site d c.world with ⟨outcome, i, w⟩
    rw [tried] at begun
    cases outcome with
    | error cause =>
      unfold Controller.launch
      rw [tried]
      refine ⟨_, begun, portrays_without rfl rfl listed ?_⟩
      simp only [Controller.instance?, Controller.slot_setSlot, if_true]
      exact absent
    | ok note =>
      obtain ⟨present, after⟩ := launch_started tried absent
      have last : (t.enlist i w).instances[t.instances.length]? = some i :=
        List.getElem?_concat_length
      have bound : t.instances.length < (t.enlist i w).instances.length := by simp [enlist]
      refine ⟨_, begun.trans (reaches_watched last rfl), rfl, after.symm, ?_, fun n listed => ?_⟩
      · rw [present]
        exact getElem?_turn bound
      · cases listed
        simpa [turn, put] using bound

omit [Document δ] in
/-- Asking whether an instance is in use asks after the process first, and then makes a probe. -/
theorem checkLive_eq (s : Settings) (i : Instance) (w : World κ) :
    i.checkLive s w =
      if i.stage = .stopped then (false, i, w)
      else
        match i.checkAlive w, i.kind with
        | (false, made), _ => (false, made)
        | (true, made), .process => (true, made)
        | (true, made), .network => made.1.checkHealth s made.2 := by
  obtain ⟨c, asked⟩ := i.isAlive_frame w.kernel
  unfold Instance.checkLive Instance.isLive Instance.checkAlive
  by_cases stopped : i.stage = .stopped
  · rw [if_pos stopped, if_pos stopped]
    rfl
  · rw [if_neg stopped, if_neg stopped]
    generalize i.isAlive w.kernel = answer at asked ⊢
    obtain ⟨alive, i', k⟩ := answer
    cases asked
    cases alive with
    | false => rfl
    | true => cases i.kind <;> rfl

/-- Where a start gets that has looked whether the instance is in use. -/
def judged (id : Text) (n : Nat) (t : Threads κ) : Bool × Instance × World κ → Threads κ
  | (true, i, w) =>
    t.turn n (i, w.info ("provider " ++ id ++ " is already running")) (some n) .idle
  | (false, i, w) =>
    t.turn n (i, w.warn ("provider " ++ id ++ " has a stale instance, restarting")) (some n)
      (.ending .restart n .flagging)

omit [Document δ] [Kernel κ] in
theorem condemn_put (listed : t.listed = some n) :
    (t.put n made).condemn id n = t.judged id n (false, made) := by
  simp only [condemn, judged, turn, put, listed]

omit [Document δ] [Kernel κ] in
theorem leave_put (listed : t.listed = some n) :
    (t.put n made).leave id = t.judged id n (true, made) := by
  simp only [leave, judged, turn, put, listed]

theorem reaches_probed (bound : n < t.instances.length) (listed : t.listed = some n)
    (made : Instance × World κ) :
    Reaches site id { t.put n made with errand := .probing n }
      (t.judged id n (made.1.checkHealth site.settings made.2)) := by
  have present : (t.put n made).instances[n]? = some made.1 := by simp [put, bound]
  have again (made' : Instance × World κ) : (t.put n made).put n made' = t.put n made' := by
    simp [put]
  refine .step (e := .work) ?_
  simp only [step, work, present, Option.map_some]
  have world : (t.put n made).world = made.2 := rfl
  rw [world]
  rcases made.1.checkHealth site.settings made.2 with ⟨_ | _, made'⟩
  · rw [← condemn_put listed, ← again made']
    rfl
  · rw [← leave_put listed, ← again made']
    rfl

theorem reaches_judged (present : t.instances[n]? = some i) (listed : t.listed = some n) :
    Reaches site id { t with errand := .reading n }
      (t.judged id n (i.checkLive site.settings t.world)) := by
  have bound := (List.getElem?_eq_some_iff.mp present).1
  rw [checkLive_eq]
  by_cases stopped : i.stage = .stopped
  · refine .step (e := .work) ?_
    simp only [step, work, present, Option.map_some, stopped, if_true]
    rw [← condemn_put listed, put_self present]
    rfl
  · have begun : Reaches site id { t with errand := .reading n } { t with errand := .looking n } :=
      .step (e := .work) (by simp [step, work, present, stopped])
    refine begun.trans ?_
    rw [if_neg stopped]
    rcases asked : i.checkAlive t.world with ⟨alive, made⟩
    cases alive with
    | false =>
      refine Reaches.step (e := .work) ?_
      simp only [step, work, present, Option.map_some, asked]
      exact congrArg some (condemn_put listed)
    | true =>
      cases kind : i.kind with
      | process =>
        refine Reaches.step (e := .work) ?_
        simp only [step, work, present, Option.map_some, asked, kind]
        exact congrArg some (leave_put listed)
      | network =>
        refine (Reaches.step (e := .work) ?_).trans (reaches_probed bound listed made)
        simp only [step, work, present, Option.map_some, asked, kind]
        rfl

theorem restart_reaches (bound : n < t.instances.length) (i : Instance) (c : Controller δ κ) :
    ∃ t', Reaches c.site id (t.turn n (i, c.world) (some n) (.ending .restart n .flagging)) t' ∧
      Portrays id ((c.remove id false i).startAnew id).2 t' := by
  have gone : (c.remove id false i).instance? id = none := by
    obtain ⟨-, -, slots⟩ := c.takeOut_spec id false i
    rw [Controller.instance?, Controller.remove, slots id, if_pos rfl]
    rfl
  obtain ⟨t', launched, portrays⟩ := launch_reaches
    (t := t.turn n ((c.takeOut id false i).1, (c.takeOut id false i).2.world) none .launching)
    (c := c.remove id false i) rfl rfl rfl gone
  exact ⟨t', (reaches_takenOut c bound .restart i).trans launched, portrays⟩

omit [Document δ] [Kernel κ] in
theorem portrays_with (bound : n < t.instances.length) (i : Instance) (c : Controller δ κ) :
    Portrays id (c.setInstance id i) (t.turn n (i, c.world) (some n) .idle) where
  idle := rfl
  world := rfl
  live := by
    rw [Controller.instance?, Controller.setInstance, Controller.slot_setSlot, if_pos rfl]
    exact getElem?_turn bound
  bound m listed := by
    cases listed
    simpa [turn, put] using bound

theorem start_reaches (portrays : Portrays id c t) :
    ∃ t', Serves c.site id .start t t' ∧ Portrays id (c.start id).2 t' := by
  unfold Controller.start
  cases present : c.instance? id with
  | none =>
    have listed := portrays.unlisted present
    have begun : t.step c.site id .start = some { t with errand := .launching } := by
      simp [step, portrays.idle, listed]
    obtain ⟨t', launched, portrayed⟩ :=
      launch_reaches (t := { t with errand := .launching }) rfl portrays.world listed present
    exact ⟨t', ⟨_, begun, launched⟩, portrayed⟩
  | some i =>
    obtain ⟨n, listed, place⟩ := portrays.place present
    have bound := portrays.bound n listed
    have begun : t.step c.site id .start = some { t with errand := .reading n } := by
      simp [step, portrays.idle, listed]
    have judged : Reaches c.site id _ _ := reaches_judged place listed
    rw [portrays.world] at judged begun
    dsimp only
    rcases asked : i.checkLive c.site.settings c.world with ⟨_ | _, i', w⟩ <;>
      rw [asked] at judged
    · obtain ⟨t', restarted, portrayed⟩ := restart_reaches bound i'
        { c with world := w.warn ("provider " ++ id ++ " has a stale instance, restarting") }
      exact ⟨t', ⟨_, begun, judged.trans restarted⟩, portrayed⟩
    · exact ⟨_, ⟨_, begun, judged⟩, portrays_with bound i'
        { c with world := w.info ("provider " ++ id ++ " is already running") }⟩

/-- What goes on by itself is a run of the threads: the output is read, and the monitor does its
round if the timer has fired. -/
theorem attend_reaches (portrays : Portrays id c t) :
    ∃ t', Reaches c.site id t t' ∧ Portrays id (c.attend id) t' := by
  unfold Controller.attend Controller.onInstance
  cases present : c.instance? id with
  | none => exact ⟨t, .refl t, portrays⟩
  | some i =>
    obtain ⟨n, listed, place⟩ := portrays.place present
    have bound := portrays.bound n listed
    obtain ⟨transport, ring, read⟩ := i.readLines_frame c.site c.world
    have reading : Reaches c.site id t (t.turn n (i.readLines c.site c.world) (some n) .idle) := by
      refine (Reaches.step (e := .traffic n transport ring) (by simp [step, place]; rfl)).trans ?_
      refine Reaches.step (e := .outside (i.readLines c.site c.world).2) ?_
      simp only [step, turn, put, read, listed, portrays.idle]
    exact ⟨_, reading.trans (reaches_monitorRound bound _),
      portrays_with bound _ { c with world := _ }⟩

/-- A caller that looks and reads with nobody else at work is answered as by the controller. -/
theorem answer_of_borrow (portrays : Portrays id c t) {caller : Nat}
    (nobody : t.found caller = none) :
    ∃ t', t.step c.site id (.find caller) = some t' ∧
      match c.borrow id with
      | .ok i => ∃ n, t'.answer id caller = .ok n ∧ t'.instances[n]? = some i
      | .error fault => t'.answer id caller = .error fault := by
  have looked : t.step c.site id (.find caller) =
      some { t with found := fun c => if c = caller then some t.listed else t.found c } := by
    simp [step, nobody]
  refine ⟨_, looked, ?_⟩
  unfold Controller.borrow
  cases present : c.instance? id with
  | none =>
    have listed := portrays.unlisted present
    simp [answer, listed]
  | some i =>
    obtain ⟨n, listed, place⟩ := portrays.place present
    by_cases running : i.stage = .running
    · have kept : (some i).filter (·.stage = .running) = some i := by
        simp [Option.filter_some, running]
      rw [kept]
      exact ⟨n, by simp [answer, listed, stage?, place, running], place⟩
    · have refused : (some i).filter (·.stage = .running) = none := by
        simp [Option.filter_some, running]
      rw [refused]
      simp [answer, listed, stage?, place, running]

end Threads

end ProviderHost
