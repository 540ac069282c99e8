import ProviderHost.Proofs.Lifecycle.Mirror

/-!
# What a request changes in the list

A request changes what the controller knows of its own provider and of no other. Whether that
provider has an instance afterwards can be told from the request and its answer, or has not
changed.
-/

namespace ProviderHost.Controller

variable {δ κ : Type}

/-! ### Other providers -/

/-- Two controllers that differ in what they know of one provider at most, and in their worlds. -/
structure SameBut (id : Text) (c c' : Controller δ κ) : Prop where
  site : c'.site = c.site
  slot : ∀ other, other ≠ id → c'.slot other = c.slot other

theorem SameBut.of_slots {id : Text} {c c' : Controller δ κ} (site : c'.site = c.site)
    (slots : c'.slots = c.slots) : SameBut id c c' where
  site := site
  slot other _ := by unfold Controller.slot; rw [slots]

theorem SameBut.trans {id : Text} {c c' c'' : Controller δ κ} (first : SameBut id c c')
    (second : SameBut id c' c'') : SameBut id c c'' where
  site := second.site.trans first.site
  slot other different := (second.slot other different).trans (first.slot other different)

theorem sameBut_setSlot (id : Text) (s : Slot) (w : World κ) (c : Controller δ κ) :
    SameBut id c ({ c with world := w }.setSlot id s) where
  site := rfl
  slot other different := by
    rw [slot_setSlot, if_neg different.symm]
    rfl

theorem sameBut_setInstance (id : Text) (i : Instance) (w : World κ) (c : Controller δ κ) :
    SameBut id c ({ c with world := w }.setInstance id i) := sameBut_setSlot id _ w c

theorem slot_erase (id other : Text) (w : World κ) (c : Controller δ κ) :
    slot other { c with world := w, slots := c.slots.erase id } =
      if id = other then {} else c.slot other := by
  unfold slot
  rw [Table.get?_erase]
  split <;> rfl

variable [Document δ] [Kernel κ]

theorem sameBut_takeOut (id : Text) (graceful : Bool) (i : Instance) (w : World κ)
    (c : Controller δ κ) : SameBut id c ({ c with world := w }.takeOut id graceful i).2 :=
  sameBut_setSlot id _ _ c

theorem sameBut_evict (id : Text) (c : Controller δ κ) : SameBut id c (c.evict id).2 := by
  unfold evict
  cases c.instance? id with
  | none => exact .of_slots rfl rfl
  | some i => exact sameBut_takeOut id true i _ c

theorem sameBut_adopt (i : Instance) (w : World κ) (c : Controller δ κ) :
    SameBut i.id c ({ c with world := w }.adopt i) := sameBut_setSlot i.id _ _ c

theorem sameBut_launch (d : Definition) (c : Controller δ κ) : SameBut d.id c (c.launch d).2 := by
  unfold launch
  cases tried : Instance.attempt c.site d c.world with
  | mk answer rest =>
    obtain ⟨i, w⟩ := rest
    cases answer with
    | error cause => exact sameBut_setSlot d.id _ w c
    | ok note =>
      obtain ⟨same, -⟩ := Instance.attempt_started tried
      dsimp only
      rw [← same]
      exact (sameBut_adopt (i.startMonitor c.site.settings w) w c).trans
        (sameBut_setSlot i.id _ _ _)

theorem sameBut_startAnew (id : Text) (c : Controller δ κ) :
    SameBut id c (c.startAnew id).2 := by
  unfold startAnew
  cases found : Store.get δ id c.world.files c.site.registry with
  | error cause => exact .of_slots rfl rfl
  | ok d =>
    obtain rfl := Store.id_of_get found
    exact sameBut_launch d c

theorem sameBut_start (id : Text) (c : Controller δ κ) : SameBut id c (c.start id).2 := by
  unfold start
  cases c.instance? id with
  | none => exact sameBut_startAnew id c
  | some i =>
    dsimp only
    generalize i.checkLive c.site.settings c.world = checked
    obtain ⟨live, j, w⟩ := checked
    cases live with
    | true => exact sameBut_setInstance id j _ c
    | false => exact (sameBut_takeOut id false j _ c).trans (sameBut_startAnew id _)

theorem sameBut_judge (id : Text) (i : Instance) (w : World κ) (c : Controller δ κ) :
    SameBut id c ({ c with world := w }.judge id i).2 := by
  unfold judge
  dsimp only
  split <;> exact sameBut_setInstance id _ _ c

theorem sameBut_presentStatus (id : Text) (i : Instance) (c : Controller δ κ) :
    SameBut id c (c.presentStatus id i).2 := by
  unfold presentStatus
  split
  · exact sameBut_takeOut id false i _ c
  · generalize i.checkAlive c.world = checked
    obtain ⟨alive, j, w⟩ := checked
    cases alive with
    | true => exact sameBut_judge id j w c
    | false => exact sameBut_takeOut id false j _ c

theorem sameBut_status (id : Text) (c : Controller δ κ) : SameBut id c (c.status id).2 := by
  unfold status
  cases Store.get δ id c.world.files c.site.registry with
  | error cause => exact .of_slots rfl rfl
  | ok d =>
    cases c.instance? id with
    | none => exact .of_slots rfl rfl
    | some i => exact sameBut_presentStatus id i c

theorem sameBut_uninstall (id : Text) (c : Controller δ κ) : SameBut id c (c.uninstall id).2 := by
  have evicted := sameBut_evict id c
  unfold uninstall
  rw [halt_eq]
  dsimp only
  split
  · exact evicted.trans (.of_slots rfl rfl)
  · exact evicted.trans ⟨rfl, fun other different =>
      (slot_erase id other _ _).trans (if_neg different.symm)⟩

omit [Document δ] [Kernel κ] in
theorem sameBut_onInstance (id : Text) (act : Instance → World κ → Instance × World κ)
    (c : Controller δ κ) : SameBut id c (c.onInstance id act) := by
  unfold onInstance
  cases c.instance? id with
  | none => exact .of_slots rfl rfl
  | some i => exact sameBut_setInstance id _ _ c

omit [Document δ] in
theorem keeps_callOn (id tool arguments : Text) (i : Instance) (c : Controller δ κ) :
    (c.callOn id tool arguments i).2.site = c.site ∧
      (c.callOn id tool arguments i).2.slots = c.slots := by
  unfold callOn
  split <;> exact ⟨rfl, rfl⟩

omit [Document δ] in
theorem keeps_execute (id tool arguments : Text) (c : Controller δ κ) :
    (c.execute id tool arguments).2.site = c.site ∧
      (c.execute id tool arguments).2.slots = c.slots := by
  unfold execute
  split
  · exact ⟨rfl, rfl⟩
  · cases c.borrow id with
    | error f => exact ⟨rfl, rfl⟩
    | ok i =>
      have called := keeps_callOn id tool arguments i c
      dsimp only
      generalize c.callOn id tool arguments i = outcome at called ⊢
      obtain ⟨answer, c'⟩ := outcome
      cases answer <;> exact called

theorem sameBut_serve (r : Request) (c : Controller δ κ) : SameBut r.owner c (c.serve r).2 := by
  cases r with
  | adopt i => exact sameBut_adopt i c.world c
  | launch d => exact sameBut_launch d c
  | start id => exact sameBut_start id c
  | stop id => exact sameBut_evict id c
  | status id => exact sameBut_status id c
  | uninstall id => exact sameBut_uninstall id c
  | update id p | borrow id => exact .of_slots rfl rfl
  | execute id tool arguments =>
    obtain ⟨site, slots⟩ := keeps_execute id tool arguments c
    exact .of_slots site slots
  | tick id => exact sameBut_onInstance id (fun i w => i.monitorStep c.site w) c
  | attend id =>
    show SameBut id c (c.attend id)
    exact sameBut_onInstance id _ c

/-! ### Instances -/

omit [Document δ] [Kernel κ] in
theorem hasInstance_setInstance (id : Text) (i : Instance) (c : Controller δ κ) :
    (c.setInstance id i).hasInstance id = true := by
  unfold hasInstance instance? setInstance
  rw [slot_setSlot, if_pos rfl]
  rfl

theorem hasInstance_takeOut (id : Text) (graceful : Bool) (i : Instance) (c : Controller δ κ) :
    (c.takeOut id graceful i).2.hasInstance id = false := by
  obtain ⟨-, -, slots⟩ := c.takeOut_spec id graceful i
  unfold hasInstance instance?
  rw [slots, if_pos rfl]
  rfl

theorem hasInstance_adopt (i : Instance) (c : Controller δ κ) :
    (c.adopt i).hasInstance i.id = true := by
  unfold hasInstance instance? adopt
  rw [slot_setSlot, if_pos rfl]
  rfl

/-- A launch brings an instance in if it succeeds, and leaves the one that is there if it fails. -/
theorem hasInstance_launch (d : Definition) (c : Controller δ κ) :
    (c.launch d).2.hasInstance d.id =
      match (c.launch d).1 with
      | .ok _ => true
      | .error _ => c.hasInstance d.id := by
  unfold launch
  cases tried : Instance.attempt c.site d c.world with
  | mk answer rest =>
    obtain ⟨i, w⟩ := rest
    cases answer with
    | error cause =>
      dsimp only
      unfold hasInstance instance?
      rw [slot_setSlot, if_pos rfl]
    | ok note =>
      obtain ⟨same, -⟩ := Instance.attempt_started tried
      have adopted := hasInstance_adopt (i.startMonitor c.site.settings w) { c with world := w }
      dsimp only
      unfold hasInstance instance? at adopted ⊢
      rw [← same, slot_setSlot, if_pos rfl]
      exact adopted

theorem hasInstance_startAnew {id : Text} {c : Controller δ κ} (absent : c.hasInstance id = false) :
    (c.startAnew id).2.hasInstance id = (c.startAnew id).1.toBool := by
  unfold startAnew
  cases found : Store.get δ id c.world.files c.site.registry with
  | error cause => exact absent
  | ok d =>
    obtain rfl := Store.id_of_get found
    have launched := hasInstance_launch d c
    rw [absent] at launched
    dsimp only
    rw [launched]
    cases (c.launch d).1 <;> rfl

/-- After a start, a provider has an instance exactly if the start has succeeded. -/
theorem hasInstance_start (id : Text) (c : Controller δ κ) :
    (c.start id).2.hasInstance id = (c.start id).1.toBool := by
  unfold start
  cases present : c.instance? id with
  | none =>
    refine hasInstance_startAnew ?_
    unfold hasInstance
    rw [present]
    rfl
  | some i =>
    dsimp only
    generalize i.checkLive c.site.settings c.world = checked
    obtain ⟨live, j, w⟩ := checked
    cases live with
    | true => exact hasInstance_setInstance id j _
    | false => exact hasInstance_startAnew (hasInstance_takeOut id false j _)

theorem hasInstance_evict (id : Text) (c : Controller δ κ) :
    (c.evict id).2.hasInstance id = false := by
  have gone := instance?_stop id id c
  rw [if_pos rfl] at gone
  exact congrArg Option.isSome gone

theorem judge?_not_stopped {stage next : Lifecycle} {healthy : Bool}
    (judged : stage.judge? healthy = some next) : next ≠ .stopped := by
  cases stage <;> cases healthy <;> cases judged <;> nofun

theorem judge_spec {id : Text} {i : Instance} (c : Controller δ κ) (used : i.stage ≠ .stopped) :
    (c.judge id i).2.hasInstance id = true ∧ (c.judge id i).1.stage ≠ .stopped := by
  obtain ⟨child, kept⟩ := i.checkHealth_frame c.site.settings c.world
  unfold judge
  generalize i.checkHealth c.site.settings c.world = checked at kept ⊢
  obtain ⟨healthy, j, w⟩ := checked
  dsimp only at kept ⊢
  subst kept
  refine ⟨hasInstance_setInstance id _ _, ?_⟩
  split
  · rename_i judged
    rw [Instance.stage_transition]
    exact judge?_not_stopped judged
  · exact used

theorem clearDead_spec (id : Text) (i : Instance) (c : Controller δ κ) :
    (c.clearDead id i).2.hasInstance id = false ∧ (c.clearDead id i).1.stage = .stopped :=
  ⟨hasInstance_takeOut id false i _, rfl⟩

theorem presentStatus_spec (id : Text) (i : Instance) (c : Controller δ κ) :
    (c.presentStatus id i).2.hasInstance id =
      decide ((c.presentStatus id i).1.stage ≠ .stopped) := by
  have cleared (j : Instance) (c : Controller δ κ) :
      (c.clearDead id j).2.hasInstance id = decide ((c.clearDead id j).1.stage ≠ .stopped) := by
    obtain ⟨gone, stopped⟩ := c.clearDead_spec id j
    rw [gone, stopped]
    rfl
  unfold presentStatus
  split
  · exact cleared i c
  · rename_i used
    obtain ⟨child, kept⟩ := i.checkAlive_frame c.world
    generalize i.checkAlive c.world = checked at kept ⊢
    obtain ⟨alive, j, w⟩ := checked
    dsimp only at kept
    subst kept
    cases alive with
    | true =>
      obtain ⟨present, stage⟩ :=
        judge_spec (i := { i with child := child }) { c with world := w } used
      dsimp only
      rw [present, decide_eq_true stage]
    | false => exact cleared _ _

/-- A provider has no instance after it was said to be stopped; any other status leaves it. -/
theorem hasInstance_status (id : Text) (c : Controller δ κ) :
    (c.status id).2.hasInstance id =
      match (c.status id).1 with
      | .ok r => c.hasInstance id && decide (r.stage ≠ .stopped)
      | .error _ => c.hasInstance id := by
  unfold status
  cases Store.get δ id c.world.files c.site.registry with
  | error cause => rfl
  | ok d =>
    cases present : c.instance? id with
    | none =>
      have absent : c.hasInstance id = false := by rw [hasInstance, present]; rfl
      simp [absent]
    | some i =>
      have held : c.hasInstance id = true := by rw [hasInstance, present]; rfl
      rw [held]
      exact presentStatus_spec id i c

theorem hasInstance_uninstall (id : Text) (c : Controller δ κ) :
    (c.uninstall id).2.hasInstance id = false := by
  have gone := hasInstance_evict id c
  unfold uninstall
  rw [halt_eq]
  dsimp only
  split
  · exact gone
  · unfold hasInstance instance?
    rw [slot_erase, if_pos rfl]
    rfl

omit [Document δ] [Kernel κ] in
theorem hasInstance_onInstance (id : Text) (act : Instance → World κ → Instance × World κ)
    (c : Controller δ κ) : (c.onInstance id act).hasInstance id = c.hasInstance id := by
  unfold onInstance
  cases present : c.instance? id with
  | none => rfl
  | some i =>
    have held : c.hasInstance id = true := by rw [hasInstance, present]; rfl
    rw [held]
    exact hasInstance_setInstance id _ _

/-- What a request and its answer say about whether its provider has an instance now. -/
def Request.bears? : Request → Answer → Option Bool
  | .adopt _, _ => some true
  | .launch _, .start (.ok _) => some true
  | .start _, .start r => some r.toBool
  | .stop _, _ | .uninstall _, _ => some false
  | .status _, .status (.ok r) => if r.stage = .stopped then some false else none
  | _, _ => none

/-- A request changes whether its provider has an instance as its answer says, or not at all. -/
theorem hasInstance_serve (r : Request) (c : Controller δ κ) :
    (c.serve r).2.hasInstance r.owner =
      (r.bears? (c.serve r).1).getD (c.hasInstance r.owner) := by
  cases r with
  | adopt i => exact hasInstance_adopt i c
  | launch d =>
    refine (hasInstance_launch d c).trans ?_
    show _ = (Request.bears? (.launch d) (.start (c.launch d).1) : Option Bool).getD _
    cases (c.launch d).1 <;> rfl
  | start id => exact hasInstance_start id c
  | stop id => exact hasInstance_evict id c
  | uninstall id => exact hasInstance_uninstall id c
  | status id =>
    refine (hasInstance_status id c).trans ?_
    show _ = (Request.bears? (.status id) (.status (c.status id).1) : Option Bool).getD _
    cases (c.status id).1 with
    | error f => rfl
    | ok r =>
      by_cases stopped : r.stage = .stopped <;> simp [Request.bears?, Request.owner, stopped]
  | update id p | borrow id => rfl
  | execute id tool arguments =>
    unfold hasInstance instance? slot
    exact congrArg (fun slots => ((Table.get? id slots).getD {}).live.isSome)
      (keeps_execute id tool arguments c).2
  | tick id | attend id => exact hasInstance_onInstance id _ c

end ProviderHost.Controller
