import ProviderHost.Proofs.Lifecycle.Threads

/-!
# What a step of the threads does

`Stepped` and `Worked` list what a step can be; the rest is read off them. A step touches an
instance in one of five ways, and most steps leave its stage and its monitor alone. An instance
that is new runs and waits for its monitor to be started. The holder of the lock gets past the
wait for a monitor only when that monitor is over.
-/

namespace ProviderHost

/-- Whether no monitor was waited for yet, and none is to be started. -/
def Errand.isEarly : Errand → Bool
  | idle | reading _ | looking _ | probing _ | launching => true
  | ending _ _ step => step = .flagging
  | watching _ => false

namespace Threads

variable {δ κ : Type} [Document δ] [Kernel κ]

inductive Worked (site : Site δ) (t : Threads κ) : Threads κ → Prop where
  | passed {next : Errand} (early : next.isEarly) (w : World κ) :
    Worked site t { t with world := w, errand := next }
  | asked {n : Nat} {i i' : Instance} {next : Errand} (present : t.instances[n]? = some i)
    (child : ∃ c, i' = { i with child := c }) (early : next.isEarly) (w : World κ) :
    Worked site t { t.put n (i', w) with errand := next }
  | ended {cause : EndCause} {n : Nat} {step : EndStep} {i : Instance}
    (errand : t.errand = .ending cause n step) (present : t.instances[n]? = some i)
    (free : step = .joining → i.monitor.phase.isOver) (listed : Option Nat) :
    Worked site t { t.put n (step.act site cause i t.world) with
      listed := listed
      errand := (step.next?.map (.ending cause n)).getD cause.errand }
  | launched {i : Instance} (stage : i.stage = .running) (monitor : i.monitor = {}) (w : World κ) :
    Worked site t (t.enlist i w)
  | watched {n : Nat} {i : Instance} (errand : t.errand = .watching n)
    (present : t.instances[n]? = some i) (w : World κ) :
    Worked site t { t.put n (i.startMonitor site.settings t.world, w) with errand := .idle }

inductive Stepped (site : Site δ) (t : Threads κ) : ThreadEvent κ → Threads κ → Prop where
  | outside (w : World κ) : Stepped site t (.outside w) { t with world := w }
  | traffic {n : Nat} {i : Instance} (present : t.instances[n]? = some i) (c : Option Transport)
    (ring : LogRing) :
    Stepped site t (.traffic n c ring) (t.put n ({ i with transport := c, ring := ring }, t.world))
  | monitor {n : Nat} {i : Instance} (present : t.instances[n]? = some i)
    (active : i.monitor.phase.isOver = false) :
    Stepped site t (.monitor n) (t.put n (i.monitorStep site t.world))
  | taken {e : ThreadEvent κ} {next : Errand} (event : e = .stop ∨ e = .start)
    (early : next.isEarly) (w : World κ) : Stepped site t e { t with world := w, errand := next }
  | worked {t' : Threads κ} (worked : Worked site t t') : Stepped site t .work t'
  | looked (caller : Nat) :
    Stepped site t (.find caller)
      { t with found := fun c => if c = caller then some t.listed else t.found c }
  | borrowed (caller : Nat) :
    Stepped site t (.borrow caller)
      { t with found := fun c => if c = caller then none else t.found c }
  | released {n : Nat} {i : Instance} (present : t.instances[n]? = some i) :
    Stepped site t (.release n) (t.put n (i.releaseChild t.world))

variable {site : Site δ} {id : Text} {t t' : Threads κ} {e : ThreadEvent κ} {n m : Nat}
  {i i' j : Instance}

theorem launch_worked (site : Site δ) (id : Text) (t : Threads κ) :
    Worked site t (t.launch site id) := by
  unfold launch
  split
  · exact .passed rfl t.world
  · split
    · exact .passed rfl _
    · rename_i d _ note i w started
      obtain ⟨-, -, stage, monitor⟩ := Instance.attempt_started started
      exact .launched stage monitor w

theorem endStep_eq_some {cause : EndCause} {step : EndStep}
    (taken : t.endStep site cause n step i = some t') :
    (step = .joining → i.monitor.phase.isOver) ∧ ∃ listed,
      t' = { t.put n (step.act site cause i t.world) with
        listed := listed
        errand := (step.next?.map (.ending cause n)).getD cause.errand } := by
  unfold endStep at taken
  split at taken
  · cases taken
  · rename_i free
    cases taken
    exact ⟨by simpa using free, _, rfl⟩

theorem work_cases (taken : t.work site id = some t') : Worked site t t' := by
  unfold work at taken
  split at taken
  · cases taken
  · obtain ⟨j, -, rfl⟩ := Option.map_eq_some_iff.mp taken
    split
    · exact .passed rfl _
    · exact .passed rfl t.world
  · obtain ⟨j, present, rfl⟩ := Option.map_eq_some_iff.mp taken
    have child := j.checkAlive_frame t.world
    rcases answer : j.checkAlive t.world with ⟨alive, made⟩
    rw [answer] at child
    cases alive with
    | false => exact .asked present child rfl _
    | true => cases j.kind <;> exact .asked present child rfl _
  · obtain ⟨j, present, rfl⟩ := Option.map_eq_some_iff.mp taken
    have child := j.checkHealth_frame site.settings t.world
    rcases answer : j.checkHealth site.settings t.world with ⟨healthy, made⟩
    rw [answer] at child
    cases healthy <;> exact .asked present child rfl _
  · rename_i cause m step errand
    obtain ⟨j, present, ended⟩ := Option.bind_eq_some_iff.mp taken
    obtain ⟨free, listed, rfl⟩ := endStep_eq_some ended
    exact .ended errand present free listed
  · cases taken
    exact t.launch_worked site id
  · rename_i m errand
    obtain ⟨j, present, rfl⟩ := Option.map_eq_some_iff.mp taken
    exact .watched errand present _

theorem step_cases (taken : t.step site id e = some t') : Stepped site t e t' := by
  cases e with
  | outside w =>
    cases taken
    exact .outside w
  | traffic m c ring =>
    obtain ⟨j, present, rfl⟩ := Option.map_eq_some_iff.mp taken
    exact .traffic present c ring
  | monitor m =>
    obtain ⟨j, present, acting⟩ := Option.bind_eq_some_iff.mp taken
    split at acting
    · cases acting
    · rename_i active
      cases acting
      exact .monitor present (by simpa using active)
  | stop =>
    simp only [step] at taken
    split at taken
    · rename_i idle
      split at taken
      · cases taken
        exact .taken (.inl rfl) (by rw [idle]; rfl) t.world
      · cases taken
        exact .taken (.inl rfl) rfl _
    · cases taken
  | start =>
    simp only [step] at taken
    split at taken
    · split at taken <;> cases taken <;> exact .taken (.inr rfl) rfl t.world
    · cases taken
  | work => exact .worked (work_cases taken)
  | find caller =>
    simp only [step] at taken
    split at taken
    · cases taken
    · cases taken
      exact .looked caller
  | borrow caller =>
    obtain ⟨_, -, rfl⟩ := Option.map_eq_some_iff.mp taken
    exact .borrowed caller
  | release m =>
    obtain ⟨j, present, releasing⟩ := Option.bind_eq_some_iff.mp taken
    split at releasing
    · cases releasing
      exact .released present
    · cases releasing

/-! ### The instances that are there -/

inductive Touch (site : Site δ) (t : Threads κ) (e : ThreadEvent κ) (n : Nat) (i : Instance) :
    Instance → Prop where
  | spared {i' : Instance} (stage : i'.stage = i.stage) (monitor : i'.monitor = i.monitor) :
    Touch site t e n i i'
  | monitored (event : e = .monitor n) (active : i.monitor.phase.isOver = false) :
    Touch site t e n i (i.monitorStep site t.world).1
  | flagged : Touch site t e n i { i with monitor := { i.monitor with stopping := true } }
  | settled (event : e = .work) {cause : EndCause} (errand : t.errand = .ending cause n .settling) :
    Touch site t e n i { i with stage := .stopped }
  | watched (event : e = .work) (errand : t.errand = .watching n) :
    Touch site t e n i (i.startMonitor site.settings t.world)

theorem Touch.of_child (changed : ∃ c, i' = { i with child := c }) : Touch site t e n i i' := by
  obtain ⟨c, rfl⟩ := changed
  exact .spared rfl rfl

omit [Document δ] [Kernel κ] in
theorem getElem?_put (present : t.instances[m]? = some j) (made : Instance × World κ) :
    (t.put m made).instances[n]? = if m = n then some made.1 else t.instances[n]? := by
  have bound := (List.getElem?_eq_some_iff.mp present).1
  simp only [put, List.getElem?_set]
  grind

omit [Document δ] [Kernel κ] in
theorem length_put (made : Instance × World κ) :
    (t.put m made).instances.length = t.instances.length := by simp [put]

theorem touch_put {made : Instance × World κ} (working : t.instances[m]? = some j)
    (touched : Touch site t e m j made.1) (present : t.instances[n]? = some i) :
    ∃ i', (t.put m made).instances[n]? = some i' ∧ Touch site t e n i i' := by
  rw [getElem?_put working]
  by_cases same : m = n
  · subst same
    rw [working] at present
    cases present
    exact ⟨made.1, by simp, touched⟩
  · exact ⟨i, by rw [if_neg same, present], .spared rfl rfl⟩

theorem act_touch {cause : EndCause} {step : EndStep}
    (errand : t.errand = .ending cause n step) :
    Touch site t .work n i (step.act site cause i t.world).1 := by
  cases step with
  | flagging => exact .flagged
  | joining => exact .spared rfl rfl
  | unlisting => exact .spared rfl rfl
  | dismissing =>
    obtain ⟨c, asked⟩ := i.dismiss_frame site.settings t.world
    simp only [EndStep.act]
    split
    · rw [asked]
      exact .spared rfl rfl
    · exact .spared rfl rfl
  | disconnecting =>
    obtain ⟨r, closed⟩ := i.disconnect_frame t.world
    rw [EndStep.act, closed]
    exact .spared rfl rfl
  | killing => exact .of_child (i.endProcess_frame site.settings t.world)
  | settling =>
    rw [EndStep.act, i.transition_frame site .stopped t.world]
    exact .settled rfl errand

theorem step_touch (taken : t.step site id e = some t') (present : t.instances[n]? = some i) :
    ∃ i', t'.instances[n]? = some i' ∧ Touch site t e n i i' := by
  cases step_cases taken with
  | outside w => exact ⟨i, present, .spared rfl rfl⟩
  | traffic working c ring => exact touch_put working (.spared rfl rfl) present
  | @monitor m j working active =>
    by_cases same : m = n
    · subst same
      exact touch_put working (.monitored rfl active) present
    · refine ⟨i, ?_, .spared rfl rfl⟩
      rw [getElem?_put working, if_neg same, present]
  | taken event early w => exact ⟨i, present, .spared rfl rfl⟩
  | worked worked =>
    cases worked with
    | passed early w => exact ⟨i, present, .spared rfl rfl⟩
    | asked working child early w => exact touch_put working (.of_child child) present
    | ended errand working free listed => exact touch_put working (act_touch errand) present
    | launched stage monitor w =>
      have bound := (List.getElem?_eq_some_iff.mp present).1
      exact ⟨i, (List.getElem?_append_left bound).trans present, .spared rfl rfl⟩
    | watched errand working w => exact touch_put working (.watched rfl errand) present
  | looked caller => exact ⟨i, present, .spared rfl rfl⟩
  | borrowed caller => exact ⟨i, present, .spared rfl rfl⟩
  | @released m j working =>
    exact touch_put working (.of_child (j.releaseChild_frame t.world)) present

/-! ### The instances that are new -/

/-- There is a new instance after a step, or none has come and no monitor is to be started that
was not to be started before. -/
theorem step_instances (taken : t.step site id e = some t') :
    (t'.instances.length = t.instances.length ∧
      ∀ n, t'.errand = .watching n → t.errand = .watching n ∧ e ≠ .work) ∨
      ∃ i w, t' = t.enlist i w ∧ i.stage = .running ∧ i.monitor = {} := by
  have early {next : Errand} (early : next.isEarly) (n : Nat) : next ≠ .watching n := by
    rintro rfl
    cases early
  cases step_cases taken with
  | outside w => exact .inl ⟨rfl, fun n watching => ⟨watching, by rintro ⟨⟩⟩⟩
  | traffic => exact .inl ⟨length_put _, fun n watching => ⟨watching, by rintro ⟨⟩⟩⟩
  | monitor => exact .inl ⟨length_put _, fun n watching => ⟨watching, by rintro ⟨⟩⟩⟩
  | taken event opening w => exact .inl ⟨rfl, fun n watching => absurd watching (early opening n)⟩
  | worked worked =>
    cases worked with
    | passed next w => exact .inl ⟨rfl, fun n watching => absurd watching (early next n)⟩
    | asked _ _ next w =>
      exact .inl ⟨length_put _, fun n watching => absurd watching (early next n)⟩
    | @ended cause m step _ errand =>
      refine .inl ⟨length_put _, fun n watching => ?_⟩
      cases step <;> cases cause <;> cases watching
    | launched stage monitor w => exact .inr ⟨_, w, rfl, stage, monitor⟩
    | watched => exact .inl ⟨length_put _, fun n watching => by cases watching⟩
  | looked caller => exact .inl ⟨rfl, fun n watching => ⟨watching, by rintro ⟨⟩⟩⟩
  | borrowed caller => exact .inl ⟨rfl, fun n watching => ⟨watching, by rintro ⟨⟩⟩⟩
  | released => exact .inl ⟨length_put _, fun n watching => ⟨watching, by rintro ⟨⟩⟩⟩

/-! ### The wait for a monitor -/

def IsJoined (n : Nat) (t : Threads κ) : Prop :=
  ∃ cause step, t.errand = .ending cause n step ∧ step.isJoined

omit [Document δ] [Kernel κ] in
theorem not_joined_of_early (early : t.errand.isEarly) : ¬ t.IsJoined n := by
  rintro ⟨cause, step, errand, joined⟩
  rw [errand] at early
  cases step <;> simp_all [Errand.isEarly, EndStep.isJoined]

theorem step_joined (taken : t.step site id e = some t') (joined : t'.IsJoined n) :
    t.IsJoined n ∨ ∃ cause i,
      t.errand = .ending cause n .joining ∧ t.instances[n]? = some i ∧ i.monitor.phase.isOver := by
  cases step_cases taken with
  | outside | traffic | monitor | looked | borrowed | released => exact .inl joined
  | taken event early w => exact absurd joined (not_joined_of_early early)
  | worked worked =>
    cases worked with
    | passed early w => exact absurd joined (not_joined_of_early early)
    | asked _ _ early w => exact absurd joined (not_joined_of_early early)
    | @ended cause m earlier i errand present free =>
      obtain ⟨_, _, after, past⟩ := joined
      cases earlier with
      | flagging =>
        cases after
        cases past
      | joining =>
        -- The one step that a monitor can hold up.
        cases after
        exact .inr ⟨cause, i, errand, present, free rfl⟩
      | settling => cases cause <;> cases after
      | unlisting | dismissing | disconnecting | killing =>
        cases after
        exact .inl ⟨cause, _, errand, rfl⟩
    | launched =>
      obtain ⟨_, _, watching, -⟩ := joined
      cases watching
    | watched => exact absurd joined (not_joined_of_early rfl)

end Threads

end ProviderHost
