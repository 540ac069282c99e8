import ProviderHost.Proofs.Lifecycle.Reached
import ProviderHost.Store.Roster
import ProviderHost.System

/-!
# Starting a provider that has an instance

An instance that is in use is left alone by every start, however often the provider is started.
What is left of one that is not in use is cleared away before the registry is read, so that
nothing of it remains when the registry fails.
-/

namespace ProviderHost

theorem Store.get_roster (id : Text) (files : Files) (path : Text) :
    ∃ cause, Store.get Roster id files path = .error cause := by
  have read : (∃ cause, (Store.load files path : Except StoreFault Roster) = .error cause) ∨
      (Store.load files path : Except StoreFault Roster) = .ok Document.blank := by
    unfold Store.load
    split
    · split <;> exact .inl ⟨_, rfl⟩
    · exact .inr rfl
  rcases read with ⟨cause, failed⟩ | empty
  · exact ⟨cause, by rw [Store.get, failed]; rfl⟩
  · exact ⟨.notFound id, by rw [Store.get, empty]; rfl⟩

namespace Controller

variable {δ κ : Type}

theorem slot_of_instance? {id : Text} {c : Controller δ κ} {i : Instance}
    (present : c.instance? id = some i) :
    c.slots.get? id = some (c.slot id) ∧ { c.slot id with live := some i } = c.slot id := by
  unfold instance? slot at *
  cases found : c.slots.get? id with
  | none =>
    rw [found] at present
    cases present
  | some s =>
    rw [found] at present
    refine ⟨rfl, ?_⟩
    rw [Option.getD_some, ← present]
    rfl

/-- Putting back the instance that is there changes nothing. -/
theorem setInstance_of_instance? {id : Text} {c : Controller δ κ} {i : Instance}
    (present : c.instance? id = some i) : c.setInstance id i = c := by
  obtain ⟨found, same⟩ := slot_of_instance? present
  unfold setInstance setSlot
  rw [same, Table.insert_of_get? found]

variable [Document δ] [Kernel κ]

/-! ### Live instances -/

theorem start_of_live {id : Text} {c : Controller δ κ} {i : Instance}
    (present : c.instance? id = some i) (live : i.IsLive c.site.settings c.world.kernel) :
    ∃ k j, c.start id = (.ok (.ofRunning i), { c with world := ⟨k, j, c.world.files⟩ }) := by
  have found := Instance.isLive_eq_true.mpr live
  have same := Instance.isLive_keeps live
  unfold start Instance.checkLive
  rw [present]
  dsimp only
  generalize i.isLive c.site.settings c.world.kernel = asked at found same ⊢
  obtain ⟨answer, note, i', k⟩ := asked
  dsimp only at found same ⊢
  subst found same
  exact ⟨k, _, congrArg (Prod.mk _) (setInstance_of_instance? (c := { c with world := _ }) present)⟩

/-- Starts a provider once for every change that the system makes by itself, after the change. -/
def startAfterEach (id : Text) :
    List (κ → κ) → Controller δ κ → List (Except Fault StartReport) × Controller δ κ
  | [], c => ([], c)
  | change :: changes, c =>
    match (c.disturb change).start id with
    | (answer, c) =>
      match startAfterEach id changes c with
      | (answers, c) => (answer :: answers, c)

/-- An instance is live whenever its provider is started. -/
def StaysLive (id : Text) (i : Instance) : List (κ → κ) → Controller δ κ → Prop
  | [], _ => True
  | change :: changes, c =>
    i.IsLive c.site.settings (change c.world.kernel) ∧
      StaysLive id i changes ((c.disturb change).start id).2

/-- As long as an instance is live, a start changes nothing but the system and the journal. -/
theorem startAfterEach_of_live {id : Text} {i : Instance} {changes : List (κ → κ)}
    {c : Controller δ κ} (present : c.instance? id = some i) (live : StaysLive id i changes c) :
    ∃ k j, startAfterEach id changes c =
      (.replicate changes.length (.ok (.ofRunning i)),
        { c with world := ⟨k, j, c.world.files⟩ }) := by
  induction changes generalizing c with
  | nil => exact ⟨c.world.kernel, c.world.journal, rfl⟩
  | cons change changes ih =>
    obtain ⟨first, later⟩ := live
    obtain ⟨k, j, started⟩ := start_of_live (c := c.disturb change) present first
    rw [started] at later
    obtain ⟨k', j', rest⟩ := ih (c := { c with world := ⟨k, j, c.world.files⟩ }) present later
    refine ⟨k', j', ?_⟩
    rw [startAfterEach, started]
    dsimp only [disturb]
    rw [rest]
    rfl

/-! ### Stale instances -/

/-- A start of a provider whose instance is not live goes on in the controller that is left when
the instance was taken out. -/
theorem start_of_stale {id : Text} {c : Controller δ κ} {i : Instance}
    (present : c.instance? id = some i) (stale : ¬ i.IsLive c.site.settings c.world.kernel) :
    ∃ (child : Option Child) (k : κ) (j : Journal) (gone : Instance) (cleared : Controller δ κ),
      { c with world := ⟨k, j, c.world.files⟩ }.takeOut id false { i with child := child } =
        (gone, cleared) ∧
      c.start id = cleared.startAnew id := by
  obtain ⟨child, same⟩ := i.isLive_frame c.site.settings c.world.kernel
  have unused : (i.isLive c.site.settings c.world.kernel).1 = false := by
    simpa using mt Instance.isLive_eq_true.mp stale
  unfold start Instance.checkLive
  rw [present]
  dsimp only
  generalize i.isLive c.site.settings c.world.kernel = asked at unused same ⊢
  obtain ⟨answer, note, i', k⟩ := asked
  dsimp only at unused same ⊢
  subst unused same
  exact ⟨child, k, _, _, _, rfl, rfl⟩

theorem site_takeOut (id : Text) (graceful : Bool) (i : Instance) (c : Controller δ κ) :
    (c.takeOut id graceful i).2.site = c.site := rfl

theorem launch_not_alreadyRunning {d : Definition} {c : Controller δ κ} {r : StartReport}
    (started : (c.launch d).1 = .ok r) : r.alreadyRunning = false := by
  unfold launch at started
  split at started
  · cases started
  · cases started
    rfl

theorem startAnew_not_alreadyRunning {id : Text} {c : Controller δ κ} {r : StartReport}
    (started : (c.startAnew id).1 = .ok r) : r.alreadyRunning = false := by
  unfold startAnew at started
  split at started
  · cases started
  · exact launch_not_alreadyRunning started

/-- A provider that has an instance is started. It is said to be running already exactly if the
instance is live. However often it is started while the instance is live, and whatever the system
does in between, each start answers with the instance's own process, address and server, and
nothing changes but the system and the journal. If the instance is not live, it is torn down and
stopped, its connection is brought to its end, and it is taken out of the controller, before the
registry is read: a registry that fails is reported by a controller in which the provider has no
instance. -/
theorem start_spares_the_live_and_clears_the_stale (id : Text) (c : Controller δ κ) (i : Instance)
    (present : c.instance? id = some i) :
    ((∃ r, (c.start id).1 = .ok r ∧ r.alreadyRunning) ↔
      i.IsLive c.site.settings c.world.kernel) ∧
    (∀ changes, StaysLive id i changes c → ∃ k j,
      startAfterEach id changes c =
        (.replicate changes.length (.ok ⟨i.id, true, i.pid?, i.url, [], i.server⟩),
          { c with world := ⟨k, j, c.world.files⟩ })) ∧
    (¬ i.IsLive c.site.settings c.world.kernel →
      ∃ (child : Option Child) (k : κ) (j : Journal) (gone : Instance)
        (cleared : Controller δ κ),
        { c with world := ⟨k, j, c.world.files⟩ }.takeOut id false { i with child := child } =
          (gone, cleared) ∧
        gone.stage = .stopped ∧ gone.monitor.phase.isOver ∧
        gone.transport.isSome = i.transport.isSome ∧ (∀ t, gone.transport = some t → t.closed) ∧
        (c.Reached → ∀ t, gone.transport = some t → t.IsEnded) ∧
        (∀ other, cleared.slot other =
          if id = other then (c.slot id).detach gone else c.slot other) ∧
        (∀ d, Store.get δ id cleared.world.files c.site.registry = .ok d →
          c.start id = cleared.launch d) ∧
        ∀ cause, Store.get δ id cleared.world.files c.site.registry = .error cause →
          c.start id = (.error cause.fault, cleared) ∧ (c.start id).2.hasInstance id = false) := by
  refine ⟨⟨fun ⟨r, started, already⟩ => ?_, fun live => ?_⟩,
    fun changes live => startAfterEach_of_live present live, fun stale => ?_⟩
  · refine Classical.byContradiction fun stale => ?_
    obtain ⟨child, k, j, gone, cleared, -, same⟩ := start_of_stale present stale
    rw [same] at started
    rw [startAnew_not_alreadyRunning started] at already
    cases already
  · obtain ⟨k, j, started⟩ := start_of_live present live
    exact ⟨_, congrArg Prod.fst started, rfl⟩
  · obtain ⟨child, k, j, gone, cleared, taken, started⟩ := start_of_stale present stale
    let found : Controller δ κ := { c with world := ⟨k, j, c.world.files⟩ }
    obtain ⟨stage, torn, slots⟩ := found.takeOut_spec id false { i with child := child }
    have site := site_takeOut id false { i with child := child } found
    rw [taken] at stage torn slots site
    refine ⟨child, k, j, gone, cleared, taken, stage, torn.monitor, torn.transport, torn.closed,
      fun reached => torn.ended ((reached.isSound id i present).of_transport rfl), slots,
      fun d read => ?_, fun cause read => ?_⟩
    · rw [started, startAnew, site, read]
    · have failed : c.start id = (.error cause.fault, cleared) := by
        rw [started, startAnew, site, read]
      refine ⟨failed, ?_⟩
      rw [failed, hasInstance, instance?, slots id, if_pos rfl]
      rfl

/-- A process that sleeps is live, and one that has exited is not; it leaves a connection behind,
which is brought to its end. No roster has a definition to launch the latter from. -/
theorem start_of_two_providers :
    let sleeping : Process :=
      { pid := 7, group := 7, parent := Process.host, handles := [], directory := []
        status := .running (.call (.sleepUntil 1000) fun _ => .exit 0) }
    let exited : Process := { sleeping with pid := 8, group := 8, status := .dead (.exited 3) }
    let live : Instance :=
      { id := "near", child := some { pid := 7 }, ring := .ofCapacity 10, stage := .running }
    let stale : Instance :=
      { id := "far", child := some { pid := 8 }, ring := .ofCapacity 10, stage := .running
        transport := some { kind := .stdio } }
    let empty : Controller Roster System :=
      { site := {}, world := ⟨{ processes := [sleeping, exited] }, {}, {}⟩ }
    let c := ((empty.serve (.adopt live)).2.serve (.adopt stale)).2
    let later := fun sys : System => { sys with clock := sys.clock + 5 }
    (∃ k j, startAfterEach "near" [id, later] c =
      (.replicate 2 (.ok ⟨"near", true, some 7, [], [], {}⟩), { c with world := ⟨k, j, {}⟩ })) ∧
    (∃ cause : StoreFault, (c.start "far").1 = .error cause.fault ∧
      (c.start "far").2.hasInstance "far" = false) ∧
    ∃ (child : Option Child) (w : World System) (gone : Instance),
      ({ c with world := w }.takeOut "far" false { stale with child := child }).1 = gone ∧
      gone.transport.isSome ∧ ∀ t, gone.transport = some t → t.IsEnded := by
  intro sleeping exited live stale empty c later
  have reached : c.Reached :=
    ((Reached.fresh _ _).adopted (i := live) (.of_none rfl)).adopted (i := stale) (.of_open rfl rfl)
  have used (k : System) (asleep : k.process? 7 = some sleeping) : live.IsLive {} k := by
    refine ⟨by decide, fun child held => ?_, fun remote => by cases remote⟩
    cases held
    exact ⟨rfl, by simp only [Kernel.poll, System.poll, asleep]; rfl⟩
  have unused : ¬ stale.IsLive {} c.world.kernel := fun well => by
    obtain ⟨-, alive⟩ := well.running _ rfl
    cases alive
  obtain ⟨-, spared, -⟩ := start_spares_the_live_and_clears_the_stale "near" c live rfl
  obtain ⟨-, -, cleared⟩ := start_spares_the_live_and_clears_the_stale "far" c stale rfl
  obtain ⟨child, k, j, gone, left, taken, -, -, kept, -, ended, -, -, failed⟩ := cleared unused
  obtain ⟨cause, read⟩ := Store.get_roster "far" left.world.files c.site.registry
  obtain ⟨answer, absent⟩ := failed cause read
  exact ⟨spared [id, later] ⟨used _ rfl, used _ rfl, trivial⟩,
    ⟨cause, congrArg Prod.fst answer, absent⟩,
    child, _, gone, congrArg Prod.fst taken, kept, ended reached⟩

end Controller

end ProviderHost
