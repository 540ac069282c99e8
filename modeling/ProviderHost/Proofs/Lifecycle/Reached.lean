import ProviderHost.Proofs.Lifecycle.Probing
import ProviderHost.Proofs.Lifecycle.Slots

/-!
# Controllers that come about

A controller starts without instances, takes in those that were started, and is asked for this and
that, while the system, the files and the journal change in whatever way. What is adopted has a
sound connection; so have all instances that a controller ever holds.
-/

namespace ProviderHost.Controller

variable {δ κ : Type}

/-- The instances have sound connections. -/
def IsSound (c : Controller δ κ) : Prop := ∀ id i, c.instance? id = some i → i.IsSound

theorem IsSound.of_slots {c c' : Controller δ κ} (sound : c.IsSound) (same : c'.slots = c.slots) :
    c'.IsSound := by
  intro id i present
  unfold instance? slot at present
  rw [same] at present
  exact sound id i present

theorem IsSound.at_world {c : Controller δ κ} (sound : c.IsSound) (w : World κ) :
    IsSound { c with world := w } := sound

theorem IsSound.setSlot {c : Controller δ κ} (sound : c.IsSound) (id : Text) {s : Slot}
    (own : ∀ i, s.live = some i → i.IsSound) : (c.setSlot id s).IsSound := by
  intro other i present
  rw [instance?, slot_setSlot] at present
  split at present
  · exact own i present
  · exact sound other i present

theorem IsSound.setInstance {c : Controller δ κ} (sound : c.IsSound) (id : Text) {i : Instance}
    (own : i.IsSound) : (c.setInstance id i).IsSound := by
  refine sound.setSlot id fun j present => ?_
  cases present
  exact own

theorem IsSound.erase {c : Controller δ κ} (sound : c.IsSound) (id : Text) (w : World κ) :
    IsSound { c with world := w, slots := c.slots.erase id } := by
  intro other i present
  rw [instance?, slot_erase] at present
  split at present
  · cases present
  · exact sound other i present

theorem IsSound.onInstance {c : Controller δ κ} (sound : c.IsSound) (id : Text)
    {act : Instance → World κ → Instance × World κ}
    (keeps : ∀ i w, i.IsSound → (act i w).1.IsSound) : (c.onInstance id act).IsSound := by
  unfold Controller.onInstance
  cases present : c.instance? id with
  | none => exact sound
  | some i =>
    exact (sound.at_world _).setInstance id (keeps i c.world (sound id i present))

variable [Document δ] [Kernel κ] {c : Controller δ κ}

theorem IsSound.takeOut (sound : c.IsSound) (id : Text) (graceful : Bool) (i : Instance) :
    (c.takeOut id graceful i).2.IsSound := by
  obtain ⟨-, -, slots⟩ := takeOut_spec id graceful i c
  intro other j present
  rw [instance?, slots other] at present
  split at present
  · cases present
  · exact sound other j present

theorem IsSound.evict (sound : c.IsSound) (id : Text) : (c.evict id).2.IsSound := by
  cases present : c.instance? id with
  | none =>
    rw [evict_of_none present]
    exact sound
  | some i =>
    obtain ⟨w, same⟩ := evict_eq_takeOut present
    rw [same]
    exact (sound.at_world _).takeOut id true i

theorem IsSound.adopt (sound : c.IsSound) {i : Instance} (own : i.IsSound) :
    (c.adopt i).IsSound := by
  refine (sound.at_world _).setSlot i.id fun j present => ?_
  cases present
  exact own

theorem IsSound.launch (sound : c.IsSound) (d : Definition) : (c.launch d).2.IsSound := by
  unfold Controller.launch
  cases tried : Instance.attempt c.site d c.world with
  | mk answer rest =>
    obtain ⟨i, w⟩ := rest
    cases answer with
    | error cause => exact (sound.at_world _).setSlot d.id (sound d.id)
    | ok note =>
      have started := Instance.isSound_attempt c.site c.world tried
      have adopted : ({ c with world := w }.adopt
          (i.startMonitor c.site.settings w)).IsSound :=
        (sound.at_world _).adopt (started.of_transport rfl)
      exact (adopted.at_world _).setSlot i.id (adopted i.id)

theorem IsSound.startAnew (sound : c.IsSound) (id : Text) : (c.startAnew id).2.IsSound := by
  unfold Controller.startAnew
  cases Store.get δ id c.world.files c.site.registry with
  | error cause => exact sound
  | ok d => exact sound.launch d

theorem IsSound.start (sound : c.IsSound) (id : Text) : (c.start id).2.IsSound := by
  unfold Controller.start
  cases present : c.instance? id with
  | none => exact sound.startAnew id
  | some i =>
    have kept : (i.checkLive c.site.settings c.world).2.1.IsSound :=
      (sound id i present).of_child (i.isLive_frame c.site.settings c.world.kernel)
    dsimp only
    generalize i.checkLive c.site.settings c.world = found at kept ⊢
    obtain ⟨live, j, w⟩ := found
    cases live with
    | true => exact (sound.at_world _).setInstance id kept
    | false =>
      exact ((sound.at_world _).takeOut id false j).startAnew id

theorem IsSound.judge (sound : c.IsSound) (id : Text) {i : Instance} (own : i.IsSound) :
    (c.judge id i).2.IsSound := by
  have kept := own.of_child (i.checkHealth_frame c.site.settings c.world)
  unfold Controller.judge
  generalize i.checkHealth c.site.settings c.world = found at kept ⊢
  obtain ⟨healthy, j, w⟩ := found
  dsimp only
  cases j.stage.judge? healthy with
  | none => exact (sound.at_world _).setInstance id kept
  | some next =>
    have changed := kept.at_stage (Instance.transition_frame c.site next j w)
    exact (sound.at_world _).setInstance id changed

theorem IsSound.clearDead (sound : c.IsSound) (id : Text) (i : Instance) :
    (c.clearDead id i).2.IsSound :=
  (sound.at_world _).takeOut id false i

theorem IsSound.presentStatus (sound : c.IsSound) (id : Text) {i : Instance} (own : i.IsSound) :
    (c.presentStatus id i).2.IsSound := by
  unfold Controller.presentStatus
  split
  · exact sound.clearDead id i
  · have kept := own.of_child (i.checkAlive_frame c.world)
    generalize i.checkAlive c.world = found at kept ⊢
    obtain ⟨alive, j, w⟩ := found
    cases alive with
    | true => exact (sound.at_world _).judge id kept
    | false => exact (sound.at_world _).clearDead id j

theorem IsSound.status (sound : c.IsSound) (id : Text) : (c.status id).2.IsSound := by
  unfold Controller.status
  cases Store.get δ id c.world.files c.site.registry with
  | error cause => exact sound
  | ok d =>
    cases present : c.instance? id with
    | none => exact sound
    | some i => exact sound.presentStatus id (sound id i present)

theorem IsSound.uninstall (sound : c.IsSound) (id : Text) : (c.uninstall id).2.IsSound := by
  have evicted := sound.evict id
  unfold Controller.uninstall
  rw [halt_eq]
  dsimp only
  split
  · exact evicted.of_slots rfl
  · exact evicted.erase id _

theorem IsSound.serve (sound : c.IsSound) {r : Request}
    (adopted : ∀ i, r = .adopt i → i.IsSound) : (c.serve r).2.IsSound := by
  cases r with
  | adopt i => exact sound.adopt (adopted i rfl)
  | launch d => exact sound.launch d
  | start id => exact sound.start id
  | stop id => exact sound.evict id
  | status id => exact sound.status id
  | uninstall id => exact sound.uninstall id
  | update id p | borrow id => exact sound.of_slots rfl
  | execute id tool arguments => exact sound.of_slots (keeps_execute id tool arguments c).2
  | tick id => exact sound.onInstance id fun i w own => own.monitorStep c.site w
  | attend id =>
    exact sound.onInstance id fun i w own => (own.readLines c.site w).monitorRound c.site _

omit [Document δ] in
theorem IsSound.listings (sound : c.IsSound) (entries : List (Except StoreFault Definition)) :
    (c.listings entries).2.IsSound := by
  induction entries generalizing c with
  | nil => exact sound
  | cons entry entries ih =>
    cases entry with
    | error cause => exact ih (sound.of_slots rfl)
    | ok d =>
      refine ih ?_
      cases present : c.instance? d.id with
      | none => exact sound
      | some i =>
        exact (sound.at_world _).setInstance d.id
          ((sound d.id i present).of_child (i.checkAlive_frame c.world))

theorem IsSound.list (sound : c.IsSound) : c.list.2.IsSound := by
  unfold Controller.list
  cases Store.list δ c.world.files c.site.registry with
  | error cause => exact sound
  | ok entries => exact sound.listings entries

omit [Document δ] [Kernel κ] in
theorem instance?_of_borrow {id : Text} {i : Instance} (lent : c.borrow id = .ok i) :
    c.instance? id = some i := by
  unfold borrow at lent
  split at lent
  · rename_i j found
    cases lent
    exact (Option.filter_eq_some_iff.mp found).1
  · cases lent

omit [Document δ] in
theorem IsSound.discoverOn (sound : c.IsSound) (id : Text) {i : Instance} (own : i.IsSound) :
    (c.discoverOn id i).2.IsSound := by
  unfold Controller.discoverOn
  split
  · exact sound.of_slots rfl
  · exact sound.of_slots rfl
  · exact (sound.at_world _).setInstance id (own.of_transport rfl)

theorem IsSound.discover (sound : c.IsSound) (id : Text) (autoStart : Bool) :
    (c.discover id autoStart).2.IsSound := by
  unfold Controller.discover
  have started : (if autoStart then (c.start id : Except Fault StartReport × Controller δ κ)
      else (.ok { id := id }, c)).2.IsSound := by
    split
    · exact sound.start id
    · exact sound
  generalize (if autoStart then (c.start id : Except Fault StartReport × Controller δ κ)
    else (.ok { id := id }, c)) = begun at started ⊢
  obtain ⟨answer, c'⟩ := begun
  cases answer with
  | error f => exact started
  | ok r =>
    dsimp only
    cases lent : c'.borrow id with
    | error cause => exact started
    | ok i => exact started.discoverOn id (started id i (instance?_of_borrow lent))

/-- What a controller can come to. -/
inductive Reached : Controller δ κ → Prop
  | fresh (site : Site δ) (w : World κ) : Reached { site := site, world := w }
  | served {c : Controller δ κ} (reached : Reached c) (r : Request)
    (adopted : ∀ i, r = .adopt i → i.IsSound) : Reached (c.serve r).2
  | listed {c : Controller δ κ} (reached : Reached c) : Reached c.list.2
  | discovered {c : Controller δ κ} (reached : Reached c) (id : Text) (autoStart : Bool) :
    Reached (c.discover id autoStart).2
  /-- The system makes progress, files are changed, and others write to the journal. -/
  | changed {c : Controller δ κ} (reached : Reached c) (w : World κ) : Reached { c with world := w }

theorem Reached.adopted (reached : c.Reached) {i : Instance} (own : i.IsSound) :
    (c.serve (.adopt i)).2.Reached :=
  reached.served (.adopt i) fun j same => by
    cases same
    exact own

theorem Reached.isSound (reached : Reached c) : c.IsSound := by
  induction reached with
  | fresh site w => exact fun id i present => by cases present
  | served _ r adopted ih => exact ih.serve adopted
  | listed _ ih => exact ih.list
  | discovered _ id autoStart ih => exact ih.discover id autoStart
  | changed _ w ih => exact ih.of_slots rfl

end ProviderHost.Controller
