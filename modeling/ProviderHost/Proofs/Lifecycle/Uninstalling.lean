import ProviderHost.Proofs.Lifecycle.Desk
import ProviderHost.Proofs.Lifecycle.Reached
import ProviderHost.Proofs.LogRing

/-!
# Uninstalling

An uninstall stops the provider in any case, and asks the registry then. What the controller
remembers of the provider, the output of its last instance and why an attempt failed, goes only
when the registry has removed the provider. The provider stays without an instance for as long as
the uninstall holds the lock.
-/

namespace ProviderHost

namespace Instance

variable {δ κ : Type}

/-! ### The output of an instance that is ended -/

theorem absorb_grows (i : Instance) (j : Journal) (events : List ReaderEvent) :
    i.ring.GrowsTo (i.absorb j events).1.ring := by
  induction events generalizing i j with
  | nil => exact .refl _
  | cons event events ih =>
    cases event with
    | line stream text =>
      have first : i.ring.GrowsTo (i.ring.append stream text) := ⟨[(stream, text)], rfl⟩
      exact first.trans (ih { i with ring := i.ring.append stream text } _)
    | note message => exact ih i _

variable [Kernel κ]

theorem disconnect_grows (i : Instance) (w : World κ) :
    i.ring.GrowsTo (i.disconnect w).1.ring := by
  unfold disconnect closeTransport
  split
  rename_i made
  split at made
  · cases made
    exact .refl _
  · rename_i t present
    have absorbed := absorb_grows { i with transport := some t.close.1 } w.journal t.close.2
    dsimp only at made
    split at made
    · split at made <;> cases made <;> exact absorbed
    · cases made
      exact absorbed

variable [Document δ]

theorem Ticked.ring_eq {i j : Instance} (ticked : Ticked i j)
    (other : i.monitor.phase ≠ .abandoning) : j.ring = i.ring := by
  cases ticked with
  | abandoned phase => exact absurd phase other
  | _ => rfl

/-- A step of the monitor only adds to the output, if it closes the connection. -/
theorem monitorStep_grows (site : Site δ) (i : Instance) (w : World κ) :
    i.ring.GrowsTo (i.monitorStep site w).1.ring := by
  by_cases abandoning : i.monitor.phase = .abandoning
  · unfold monitorStep
    rw [abandoning]
    exact i.disconnect_grows w
  · rw [(monitorStep_ticked site i w).ring_eq abandoning]
    exact .refl _

theorem joinMonitor_grows (site : Site δ) (i : Instance) (w : World κ) :
    i.ring.GrowsTo (i.joinMonitor site w).1.ring := by
  unfold joinMonitor
  have finished := monitorSteps_preserves (P := fun j => i.ring.GrowsTo j.ring) site
    (fun j w grown => grown.trans (monitorStep_grows site j w)) roundLength
    (i := { i with monitor := { i.monitor with stopping := true } }) w (.refl _)
  exact finished.trans (monitorStep_grows site _ _)

theorem tearDown_grows (site : Site δ) (graceful : Bool) (i : Instance) (w : World κ) :
    i.ring.GrowsTo (i.tearDown site graceful w).1.ring := by
  have joined := i.joinMonitor_grows site w
  unfold tearDown
  generalize i.joinMonitor site w = made at joined ⊢
  obtain ⟨j, w₁⟩ := made
  have asked : (if graceful then j.dismiss site.settings w₁ else (j, w₁)).1.ring = j.ring := by
    split
    · obtain ⟨f, dismissed⟩ := j.dismiss_frame site.settings w₁
      rw [dismissed]
    · rfl
  dsimp only at joined ⊢
  generalize (if graceful then j.dismiss site.settings w₁ else (j, w₁)) = last at asked ⊢
  obtain ⟨l, w₂⟩ := last
  obtain ⟨child, ended⟩ := endProcess_frame site.settings (l.disconnect w₂).1 (l.disconnect w₂).2
  dsimp only at asked ⊢
  rw [ended]
  rw [← asked] at joined
  exact joined.trans (l.disconnect_grows w₂)

end Instance

theorem Slot.ring?_detach (i : Instance) (s : Slot) :
    (s.detach i).ring? = (s.past <|> some i.ring) := by
  unfold detach ring?
  cases s.past <;> rfl

namespace Controller

variable {δ κ : Type} [Document δ] [Kernel κ]

theorem takeOut_grows (id : Text) (graceful : Bool) (i : Instance) (c : Controller δ κ) :
    i.ring.GrowsTo (c.takeOut id graceful i).1.ring := by
  have grown := i.tearDown_grows c.site graceful c.world
  unfold takeOut Instance.retire
  generalize i.tearDown c.site graceful c.world = made at grown ⊢
  obtain ⟨j, w⟩ := made
  have settled := j.transition_frame c.site .stopped w
  dsimp only at grown ⊢
  generalize j.transition c.site .stopped w = last at settled ⊢
  obtain ⟨l, w'⟩ := last
  obtain ⟨child, released⟩ := l.releaseChild_frame w'
  dsimp only at settled ⊢
  rw [released]
  cases settled
  exact grown

/-- A stop keeps what is remembered of the provider. All that happens to its last output is that
more comes in. -/
theorem remembered_evict (id : Text) (c : Controller δ κ) :
    ((c.evict id).2.slot id).failure = (c.slot id).failure ∧
      ∃ lines, ((c.evict id).2.slot id).ring? = (c.slot id).ring?.map (·.appendAll lines) := by
  cases present : c.instance? id with
  | none =>
    rw [evict_of_none present]
    exact ⟨rfl, [], Option.map_id'.symm⟩
  | some i =>
    obtain ⟨w, same⟩ := evict_eq_takeOut present
    obtain ⟨-, -, slots⟩ := takeOut_spec id true i { c with world := w }
    obtain ⟨lines, grown⟩ := takeOut_grows id true i { c with world := w }
    have remembered : (c.slot id).ring? = ((c.slot id).past <|> some i.ring) := by
      rw [Slot.ring?, ← instance?, present, Option.map_some]
    rw [same, slots, if_pos rfl]
    refine ⟨rfl, ?_⟩
    rw [Slot.ring?_detach, remembered]
    change ∃ lines, ((c.slot id).past <|> some _) = _
    cases (c.slot id).past with
    | some r => exact ⟨[], rfl⟩
    | none => exact ⟨lines, congrArg some grown⟩

/-! ### The removal -/

/-- The registry is asked when the provider has no instance any more. -/
theorem uninstall_eq (id : Text) (c : Controller δ κ) :
    c.uninstall id =
      match Store.remove δ (fun _ => false) id (c.stop id).world.files c.site.registry with
      | (.error cause, files) =>
        (.error cause.fault,
          { c.stop id with world := { (c.stop id).world with files := files } })
      | (.ok (), files) =>
        (.ok (),
          { c.stop id with
            world := { (c.stop id).world with files := files }
            slots := (c.stop id).slots.erase id }) := by
  have site : (c.stop id).site = c.site := (sameBut_evict id c).site
  have gone : (c.stop id).hasInstance id = false := hasInstance_evict id c
  rw [← site, ← Store.remove_congr (f := ((c.stop id).hasInstance ·)) gone]
  rfl

/-- An uninstall of the controller is a run at the desk in which nobody else takes the lock. -/
theorem uninstall_reaches {c : Controller δ κ} {id : Text} {d : Desk κ} (nobody : d.duty = .none)
    (portrays : Threads.Portrays id c d.threads) :
    ∃ d', Desk.Serves c.site id .uninstall d d' ∧ d'.duty = .none ∧
      Threads.Portrays id (c.uninstall id).2 d'.threads := by
  obtain ⟨t, ⟨begun, stopping, reached⟩, stopped⟩ := Threads.stop_reaches portrays
  have gone : (c.stop id).instance? id = none := by simp [instance?_stop]
  have listed := stopped.unlisted gone
  have world := stopped.world
  have free : d.IsFree := ⟨by rw [nobody]; rfl, portrays.idle⟩
  have begins : d.step c.site id .uninstall = some ⟨begun, .stopping⟩ := by
    simp [Desk.step, DeskEvent.takesLock, free, stopping]
  -- No instance is listed after the stop, so that the registry lets the removal pass.
  have asked : Desk.Reaches c.site id ⟨begun, .stopping⟩ ⟨t, .erasing⟩ := by
    have first : Desk.proceed c.site id ⟨t, .stopping⟩ = some ⟨t, .asking⟩ := by
      simp [Desk.proceed, stopped.idle]
    have second : Desk.proceed c.site id ⟨t, .asking⟩ = some ⟨t, .erasing⟩ := by
      simp [Desk.proceed, listed]
    exact (Desk.reaches_of_threads .stopping reached).trans
      ((Desk.Reaches.proceed first).trans (Desk.Reaches.proceed second))
  rw [uninstall_eq]
  rcases removed : Store.remove δ (fun _ => false) id (c.stop id).world.files c.site.registry with
    ⟨_ | _, files⟩
  · have last : Desk.proceed c.site id ⟨t, .erasing⟩ =
        some (Desk.filed files .none ⟨t, .erasing⟩) := by
      simp only [Desk.proceed, world, removed]
    refine ⟨_, ⟨_, begins, asked.trans (Desk.Reaches.proceed last)⟩, rfl, ?_⟩
    exact Desk.portrays_filed files stopped
  · have last : Desk.proceed c.site id ⟨t, .erasing⟩ =
        some (Desk.filed files .forgetting ⟨t, .erasing⟩) := by
      simp only [Desk.proceed, world, removed]
    have back : Desk.proceed c.site id (Desk.filed files .forgetting ⟨t, .erasing⟩) =
        some (Desk.filed files .none ⟨t, .erasing⟩) := rfl
    have removing := (Desk.Reaches.proceed last).trans (Desk.Reaches.proceed back)
    refine ⟨_, ⟨_, begins, asked.trans removing⟩, rfl, ?_⟩
    exact Threads.portrays_without stopped.idle (by simp [Desk.filed, world]) listed
      (congrArg Slot.live ((slot_erase id id _ (c.stop id)).trans (if_pos rfl)))

/-- An uninstall never fails to stop the provider: whatever the registry answers to the removal,
there is no instance any more, and the one that was there is stopped with its connection at its
end. If the removal fails, the fault is that of the registry, and what is remembered of the provider
stays; its last output only gets what the instance has said at the end. It is forgotten if the
removal succeeds. Other providers are left alone. However the other threads take their turns, whoever has
the lock for an uninstall has taken it while it was free, and nobody else takes it before the
uninstall is over; once the instance that was listed is stopped, none is listed until then, and so
the registry never refuses the removal because the provider is in use. -/
theorem uninstall_stops_and_forgets_on_success (id : Text) (c : Controller δ κ) {d z : Desk κ}
    {events : List (DeskEvent κ)} (nobody : d.duty = .none) (opening : d.threads.Opening)
    (ran : d.run c.site id events = some z) :
    let removal :=
      Store.remove δ ((c.stop id).hasInstance ·) id (c.stop id).world.files c.site.registry
    (c.uninstall id).2.hasInstance id = false ∧
    (∀ i, c.instance? id = some i → ∃ gone, (c.evict id).1 = some gone ∧ gone.stage = .stopped ∧
      gone.transport.isSome = i.transport.isSome ∧ (∀ t, gone.transport = some t → t.closed) ∧
      (c.Reached → ∀ t, gone.transport = some t → t.IsEnded)) ∧
    (∀ other, other ≠ id → (c.uninstall id).2.slot other = c.slot other) ∧
    (∀ cause, removal.1 = .error cause →
      (c.uninstall id).1 = .error cause.fault ∧
      ((c.uninstall id).2.slot id).failure = (c.slot id).failure ∧
      ∃ lines, ((c.uninstall id).2.slot id).ring? = (c.slot id).ring?.map (·.appendAll lines)) ∧
    (removal.1 = .ok () → (c.uninstall id).1 = .ok () ∧ (c.uninstall id).2.slot id = {}) ∧
    (z.duty.isRemoval →
      ∃ before after x, events = before ++ .uninstall :: after ∧
        (∀ e ∈ after, e.takesLock = false) ∧ d.run c.site id before = some x ∧ x.IsFree ∧
        z.threads.instances.length = x.threads.instances.length ∧
        (z.duty ≠ .stopping → z.threads.listed = none ∧
          ∀ n, x.threads.listed = some n → z.threads.stage? n = some .stopped)) ∧
    (z.duty = .asking → z.step c.site id .proceed = some { z with duty := .erasing }) := by
  intro removal
  have free : d.duty.isNone := by rw [nobody]; rfl
  have removing := Desk.run_removing free opening.sound ran
  have gone : (c.stop id).hasInstance id = false := hasInstance_evict id c
  have same : removal =
      Store.remove δ (fun _ => false) id (c.stop id).world.files c.site.registry :=
    Store.remove_congr gone _ _
  obtain ⟨failure, lines, ring⟩ := remembered_evict id c
  refine ⟨hasInstance_uninstall id c, fun i present => ?_, (sameBut_uninstall id c).slot,
    fun cause failed => ?_, fun removed => ?_, fun underway => ?_, fun asking => ?_⟩
  · obtain ⟨gone, left, stage, torn, -⟩ := evict_of_some present
    exact ⟨gone, left, stage, torn.transport, torn.closed,
      fun reached => torn.ended (reached.isSound id i present)⟩
  · rw [uninstall_eq, ← same]
    generalize removal = outcome at failed
    obtain ⟨answer, files⟩ := outcome
    cases failed
    exact ⟨rfl, failure, lines, ring⟩
  · rw [uninstall_eq, ← same]
    generalize removal = outcome at removed
    obtain ⟨answer, files⟩ := outcome
    cases removed
    exact ⟨rfl, (slot_erase id id _ (c.stop id)).trans (if_pos rfl)⟩
  · obtain ⟨before, after, x, split, alone, start, free, underway⟩ := removing underway
    refine ⟨before, after, x, split, alone, start, free, underway.instances, fun past => ?_⟩
    have ended := underway.past past
    exact ⟨ended.listed, ended.stopped⟩
  · obtain ⟨_, _, x, -, -, -, -, underway⟩ := removing (by rw [asking]; rfl)
    have ended := underway.past fun stopping => by cases asking.symm.trans stopping
    simp [Desk.proceed, asking, ended.listed]

/-- A provider that is unreachable, and was not to be started before. -/
def forsaken : Controller Roster System :=
  { site := {}, world := ⟨{}, {}, {}⟩
    slots := Table.empty.insert "remote"
      { live := some Threads.unreachable, failure := some "timed out" } }

/-- The monitor of the provider is waited for, and somebody looks into the list meanwhile. -/
def slowRemoval : List (DeskEvent System) :=
  [.uninstall, .thread .work, .thread (.monitor 0), .thread .work, .thread .work,
    .thread (.find 0), .thread .work, .thread .work, .thread .work, .thread .work, .proceed]

theorem failed_uninstall_stops :
    ∃ z : Desk System,
      Desk.run forsaken.site "remote"
        { threads := Threads.around Threads.unreachable forsaken.world } slowRemoval = some z ∧
      z.duty = .asking ∧ z.threads.listed = none ∧ z.threads.stage? 0 = some .stopped ∧
      (forsaken.uninstall "remote").1 = .error (StoreFault.notFound "remote").fault ∧
      ((forsaken.uninstall "remote").2.slot "remote").failure = some "timed out" := by
  refine ⟨_, rfl, rfl, rfl, rfl, ?_⟩
  have uninstalled := @uninstall_stops_and_forgets_on_success Roster System _ _ "remote" forsaken
    { threads := Threads.around Threads.unreachable forsaken.world } _ slowRemoval rfl
    (Threads.opening_around_unreachable _) rfl
  obtain ⟨answer, failure, -⟩ := uninstalled.2.2.2.1 (.notFound "remote") rfl
  exact ⟨answer, failure.trans rfl⟩

end Controller

end ProviderHost
