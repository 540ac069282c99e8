import ProviderHost.Proofs.Lifecycle.Embedding
import ProviderHost.Proofs.Lifecycle.Requests
import ProviderHost.Proofs.Lifecycle.Stopping
import ProviderHost.Proofs.Store.Refusal

/-!
# Controllers that agree on a provider

Two controllers, one of them in an embedded system, that know the same of a provider. Whatever is
asked of both for that provider, they give the same answer and go on to agree, whatever each of
them knows of other providers.
-/

namespace ProviderHost

namespace Instance

variable {κ μ : Type} [Kernel κ] [Kernel μ] (φ : Embedding κ μ)

theorem callTool_embed (s : Settings) (tool arguments : Text) (i : Instance) (k : κ) :
    i.callTool s tool arguments (φ.kernel k) =
      onState φ.kernel (i.callTool s tool arguments k) := by
  unfold callTool
  cases i.admitted Transport.admitCall with
  | error f => rfl
  | ok peer => exact φ.callTool peer tool arguments s.toolCallTimeout k

end Instance

namespace Controller

variable {δ κ μ : Type} [Kernel κ] [Kernel μ] {φ : Embedding κ μ} {id : Text}
  {c : Controller δ κ} {c' : Controller δ μ}

structure Mirrors (φ : Embedding κ μ) (id : Text) (c : Controller δ κ) (c' : Controller δ μ) :
    Prop where
  site : c'.site = c.site
  world : c'.world = φ.world c.world
  slot : c'.slot id = c.slot id

structure Agree {α : Type} (φ : Embedding κ μ) (id : Text) (outcome : α × Controller δ κ)
    (outcome' : α × Controller δ μ) : Prop where
  answer : outcome'.1 = outcome.1
  mirrors : Mirrors φ id outcome.2 outcome'.2

namespace Mirrors

variable (m : Mirrors φ id c c')
include m

theorem instance? : c'.instance? id = c.instance? id := congrArg Slot.live m.slot

theorem hasInstance : c'.hasInstance id = c.hasInstance id := congrArg Option.isSome m.instance?

theorem kernel : c'.world.kernel = φ.kernel c.world.kernel := by rw [m.world]; rfl

theorem files : c'.world.files = c.world.files := by rw [m.world]; rfl

theorem at_world (w : World κ) :
    Mirrors φ id { c with world := w } ⟨c.site, φ.world w, c'.slots⟩ := ⟨rfl, rfl, m.slot⟩

theorem setSlot (s : Slot) : Mirrors φ id (c.setSlot id s) (c'.setSlot id s) where
  site := m.site
  world := m.world
  slot := by rw [slot_setSlot, slot_setSlot, if_pos rfl, if_pos rfl]

theorem setInstance (i : Instance) : Mirrors φ id (c.setInstance id i) (c'.setInstance id i) := by
  unfold Controller.setInstance
  rw [m.slot]
  exact m.setSlot _

theorem agree {α : Type} (answer : α) : Agree φ id (answer, c) (answer, c') := ⟨rfl, m⟩

end Mirrors

theorem Agree.map {α β : Type} {outcome : α × Controller δ κ} {outcome' : α × Controller δ μ}
    (agree : Agree φ id outcome outcome') (f : α → β) :
    Agree φ id (f outcome.1, outcome.2) (f outcome'.1, outcome'.2) :=
  ⟨congrArg f agree.answer, agree.mirrors⟩

variable [Document δ]

theorem takeOut_agree (m : Mirrors φ id c c') (graceful : Bool) (i : Instance) :
    Agree φ id (c.takeOut id graceful i) (c'.takeOut id graceful i) := by
  unfold takeOut
  rw [m.site, m.world, m.slot, Instance.retire_embed]
  generalize i.retire c.site graceful .stopped c.world = retired
  obtain ⟨j, w⟩ := retired
  dsimp only [onState]
  rw [Instance.releaseChild_embed]
  exact ((m.at_world (j.releaseChild w).2).setSlot _).agree _

theorem evict_agree (m : Mirrors φ id c c') : Agree φ id (c.evict id) (c'.evict id) := by
  unfold evict
  rw [m.instance?]
  cases c.instance? id with
  | none => exact m.agree none
  | some i =>
    dsimp only
    unfold announceStop
    rw [m.site, m.world, φ.info_world]
    exact (takeOut_agree (m.at_world _) true i).map some

theorem halt_agree (m : Mirrors φ id c c') : Agree φ id (c.halt id) (c'.halt id) :=
  (evict_agree m).map fun _ => Except.ok ()

theorem adopt_mirrors {i : Instance} (m : Mirrors φ i.id c c') :
    Mirrors φ i.id (c.adopt i) (c'.adopt i) := by
  unfold adopt
  rw [m.instance?, m.slot]
  cases c.instance? i.id with
  | none => exact Mirrors.setSlot (c := { c with world := c.world }) m _
  | some old =>
    dsimp only
    rw [m.site, m.world, Instance.discard_embed]
    exact (m.at_world (old.discard c.site c.world).2).setSlot _

theorem launch_agree {d : Definition} (m : Mirrors φ d.id c c') :
    Agree φ d.id (c.launch d) (c'.launch d) := by
  cases tried : Instance.attempt c.site d c.world with
  | mk answer rest =>
    obtain ⟨i, w⟩ := rest
    have tried' : Instance.attempt c'.site d c'.world = (answer, i, φ.world w) := by
      rw [m.site, m.world, Instance.attempt_embed, tried]
      rfl
    unfold launch
    rw [tried, tried']
    cases answer with
    | error cause =>
      dsimp only
      rw [m.site, m.slot]
      exact ((m.at_world w).setSlot _).agree _
    | ok note =>
      obtain ⟨same, -⟩ := Instance.attempt_started tried
      have watched : i.startMonitor c.site.settings (φ.world w) =
          i.startMonitor c.site.settings w := Instance.awaitingRound_embed φ _ _ w
      dsimp only
      rw [m.site, watched]
      have owned : (i.startMonitor c.site.settings w).id = d.id := same
      generalize i.startMonitor c.site.settings w = watching at owned ⊢
      have adopted : Mirrors φ d.id ({ c with world := w }.adopt watching)
          (Controller.adopt watching ⟨c.site, φ.world w, c'.slots⟩) := by
        rw [← owned] at m ⊢
        exact adopt_mirrors (m.at_world w)
      rw [same, adopted.site, adopted.world, φ.info_world, adopted.slot]
      exact ((adopted.at_world _).setSlot _).agree _

theorem startAnew_agree (m : Mirrors φ id c c') :
    Agree φ id (c.startAnew id) (c'.startAnew id) := by
  unfold startAnew
  rw [m.files, m.site]
  cases found : Store.get δ id c.world.files c.site.registry with
  | error cause => exact m.agree _
  | ok d =>
    obtain rfl := Store.id_of_get found
    exact launch_agree m

theorem start_agree (m : Mirrors φ id c c') : Agree φ id (c.start id) (c'.start id) := by
  unfold start
  rw [m.instance?]
  cases c.instance? id with
  | none => exact startAnew_agree m
  | some i =>
    dsimp only
    rw [m.site, m.world, Instance.checkLive_embed]
    generalize i.checkLive c.site.settings c.world = checked
    obtain ⟨live, j, w⟩ := checked
    cases live with
    | true =>
      dsimp only [onState]
      rw [φ.info_world]
      exact ((m.at_world _).setInstance j).agree _
    | false =>
      dsimp only [onState]
      rw [φ.warn_world]
      exact startAnew_agree (takeOut_agree (m.at_world _) false j).mirrors

theorem clearDead_agree (m : Mirrors φ id c c') (i : Instance) :
    Agree φ id (c.clearDead id i) (c'.clearDead id i) := by
  unfold clearDead
  dsimp only
  rw [m.site, m.world, φ.warn_world]
  exact (takeOut_agree (m.at_world _) false i).mirrors.agree _

theorem judge_agree (m : Mirrors φ id c c') (i : Instance) :
    Agree φ id (c.judge id i) (c'.judge id i) := by
  unfold judge
  rw [m.site, m.world, Instance.checkHealth_embed]
  generalize i.checkHealth c.site.settings c.world = checked
  obtain ⟨healthy, j, w⟩ := checked
  dsimp only [onState]
  split
  · rw [Instance.transition_embed]
    exact ((m.at_world (j.transition c.site _ w).2).setInstance _).agree _
  · exact ((m.at_world w).setInstance j).agree _

theorem presentStatus_agree (m : Mirrors φ id c c') (i : Instance) :
    Agree φ id (c.presentStatus id i) (c'.presentStatus id i) := by
  unfold presentStatus
  split
  · exact clearDead_agree m i
  · rw [m.site, m.world, Instance.checkAlive_embed]
    generalize i.checkAlive c.world = checked
    obtain ⟨alive, j, w⟩ := checked
    cases alive with
    | true => exact judge_agree (m.at_world w) j
    | false => exact clearDead_agree (m.at_world w) j

theorem status_agree (m : Mirrors φ id c c') : Agree φ id (c.status id) (c'.status id) := by
  unfold status
  rw [m.files, m.site]
  cases Store.get δ id c.world.files c.site.registry with
  | error cause => exact m.agree _
  | ok d =>
    dsimp only
    rw [m.instance?, m.slot]
    cases c.instance? id with
    | none => exact m.agree _
    | some i => exact (presentStatus_agree m i).map Except.ok

omit [Document δ] in
theorem Mirrors.at_files (m : Mirrors φ id c c') (files : Files) :
    Mirrors φ id { c with world := { c.world with files := files } }
      ⟨c.site, { c'.world with files := files }, c'.slots⟩ := by
  rw [m.world]
  exact m.at_world { c.world with files := files }

theorem update_agree (m : Mirrors φ id c c') (p : Patch) :
    Agree φ id (c.update id p) (c'.update id p) := by
  unfold update
  rw [m.site, m.files, Store.update_congr (f := (c'.hasInstance ·)) (g := (c.hasInstance ·))
    m.hasInstance]
  generalize Store.update δ (c.hasInstance ·) id p c.world.files c.site.registry = updated
  obtain ⟨answer, files⟩ := updated
  exact (m.at_files files).agree _

theorem uninstall_agree (m : Mirrors φ id c c') :
    Agree φ id (c.uninstall id) (c'.uninstall id) := by
  have halted := (halt_agree m).mirrors
  unfold uninstall
  rw [halt_eq, halt_eq] at halted ⊢
  dsimp only at halted ⊢
  rw [halted.site, halted.files, Store.remove_congr (f := ((c'.evict id).2.hasInstance ·))
    (g := ((c.evict id).2.hasInstance ·)) halted.hasInstance]
  generalize Store.remove δ ((c.evict id).2.hasInstance ·) id (c.evict id).2.world.files
    (c.evict id).2.site.registry = removed
  obtain ⟨answer, files⟩ := removed
  cases answer with
  | error cause => exact (halted.at_files files).agree _
  | ok =>
    refine ⟨rfl, rfl, (halted.at_files files).world, ?_⟩
    simp only [slot, Table.get?_erase, if_pos]

omit [Document δ] in
theorem borrow_agree (m : Mirrors φ id c c') : Agree φ id (c.borrow id, c) (c'.borrow id, c') := by
  refine ⟨?_, m⟩
  simp only [borrow, m.instance?]

omit [Document δ] in
theorem callOn_agree (m : Mirrors φ id c c') (tool arguments : Text) (i : Instance) :
    Agree φ id (c.callOn id tool arguments i) (c'.callOn id tool arguments i) := by
  unfold callOn
  split
  · exact m.agree _
  · have called := i.callTool_embed φ c.site.settings tool arguments c.world.kernel
    rw [m.site, m.kernel, called, m.world]
    exact (m.at_world { c.world with kernel := _ }).agree _

omit [Document δ] in
theorem execute_agree (m : Mirrors φ id c c') (tool arguments : Text) :
    Agree φ id (c.execute id tool arguments) (c'.execute id tool arguments) := by
  unfold execute
  split
  · exact m.agree _
  · have lent : c'.borrow id = c.borrow id := (borrow_agree m).answer
    rw [lent]
    cases c.borrow id with
    | error f => exact m.agree _
    | ok i =>
      dsimp only
      obtain ⟨answer, called⟩ := callOn_agree m tool arguments i
      generalize c'.callOn id tool arguments i = outcome' at answer called ⊢
      generalize c.callOn id tool arguments i = outcome at answer called ⊢
      obtain ⟨answer₁, c₁⟩ := outcome
      obtain ⟨answer₁', c₁'⟩ := outcome'
      cases answer
      cases answer₁ with
      | ok text => exact called.agree _
      | error f =>
        dsimp only at called ⊢
        rw [called.site, called.world, φ.warn_world]
        exact (called.at_world _).agree _

omit [Document δ] in
/-- An instance that does the same in both worlds keeps the controllers in agreement. -/
theorem onInstance_mirrors (m : Mirrors φ id c c') {act : Instance → World κ → Instance × World κ}
    {act' : Instance → World μ → Instance × World μ}
    (same : ∀ i w, act' i (φ.world w) = onState φ.world (act i w)) :
    Mirrors φ id (c.onInstance id act) (c'.onInstance id act') := by
  unfold onInstance
  rw [m.instance?]
  cases c.instance? id with
  | none => exact m
  | some i =>
    dsimp only
    rw [m.site, m.world, same]
    exact (m.at_world (act i c.world).2).setInstance _

theorem attend_mirrors (m : Mirrors φ id c c') : Mirrors φ id (c.attend id) (c'.attend id) := by
  refine onInstance_mirrors m fun i w => ?_
  rw [m.site, Instance.readLines_embed]
  exact Instance.monitorRound_embed φ c.site _ _

theorem tick_mirrors (m : Mirrors φ id c c') :
    Mirrors φ id (c.onInstance id fun i w => i.monitorStep c.site w)
      (c'.onInstance id fun i w => i.monitorStep c'.site w) := by
  refine onInstance_mirrors m fun i w => ?_
  rw [m.site]
  exact Instance.monitorStep_embed φ c.site i w

/-- Controllers that agree on a provider serve a request for it alike, and go on to agree. -/
theorem serve_agree (r : Request) (m : Mirrors φ r.owner c c') :
    Agree φ r.owner (c.serve r) (c'.serve r) := by
  cases r with
  | adopt i => exact (adopt_mirrors m).agree Answer.nothing
  | launch d => exact (launch_agree m).map Answer.start
  | start id => exact (start_agree m).map Answer.start
  | stop id => exact (halt_agree m).map Answer.stop
  | status id => exact (status_agree m).map Answer.status
  | update id p => exact (update_agree m p).map Answer.definition
  | uninstall id => exact (uninstall_agree m).map Answer.stop
  | borrow id => exact (borrow_agree m).map Answer.lent
  | execute id tool arguments => exact (execute_agree m tool arguments).map Answer.tool
  | tick id => exact (tick_mirrors m).agree Answer.nothing
  | attend id => exact (attend_mirrors m).agree Answer.nothing

/-- What holds over every call of a system holds over a request. -/
theorem serve_kernel {R : κ → κ → Prop} (kept : Kernel.Kept R) (r : Request)
    (c : Controller δ κ) : R c.world.kernel (c.serve r).2.world.kernel := by
  let origin : Controller δ (Since kept c.world.kernel) :=
    { site := c.site, slots := c.slots
      world := ⟨⟨c.world.kernel, kept.refl _⟩, c.world.journal, c.world.files⟩ }
  have m : Mirrors (Since.embedding kept c.world.kernel) r.owner origin c := ⟨rfl, rfl, rfl⟩
  rw [(serve_agree r m).mirrors.kernel]
  exact (origin.serve r).2.world.kernel.related

end Controller

end ProviderHost
