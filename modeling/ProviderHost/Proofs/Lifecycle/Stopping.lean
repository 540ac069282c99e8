import ProviderHost.Proofs.Lifecycle.Connection

/-!
# Stopping

Whatever the process and the peer do, an instance that is stopped leaves the controller with its
monitor over, its connection closed, and in the stage of a stopped one, and no other instance is
touched.
-/

namespace ProviderHost

@[simp] theorem Transport.closed_close (t : Transport) : t.close.1.closed = true := by
  unfold Transport.close
  split
  · assumption
  · rfl

namespace Instance

variable {δ κ : Type} [Document δ] [Kernel κ]

structure TornDown (i j : Instance) : Prop where
  monitor : j.monitor.phase.isOver
  transport : j.transport.isSome = i.transport.isSome
  closed : ∀ t, j.transport = some t → t.closed
  ended : i.IsSound → ∀ t, j.transport = some t → t.IsEnded

theorem TornDown.of_child {i j l : Instance} (torn : TornDown i j)
    (changed : ∃ c, l = { j with child := c }) : TornDown i l := by
  obtain ⟨c, rfl⟩ := changed
  exact ⟨torn.monitor, torn.transport, torn.closed, torn.ended⟩

theorem TornDown.at_stage {i j l : Instance} (torn : TornDown i j) {stage : Lifecycle}
    (changed : l = { j with stage := stage }) : TornDown i l := by
  subst changed
  exact ⟨torn.monitor, torn.transport, torn.closed, torn.ended⟩

theorem disconnect_tornDown {i j : Instance} (w : World κ) (finished : j.monitor.phase.isOver)
    (transport : j.transport.isSome = i.transport.isSome) (sound : i.IsSound → j.IsSound) :
    TornDown i (j.disconnect w).1 := by
  have ended := fun whole => (sound whole).isEnded_disconnect w
  obtain ⟨r, disconnected⟩ := j.disconnect_frame w
  rw [disconnected] at ended ⊢
  refine ⟨finished, by simpa using transport, fun t present => ?_, ended⟩
  obtain ⟨open', -, rfl⟩ := Option.map_eq_some_iff.mp present
  exact open'.closed_close

/-- Every way in which the process ends, or does not end, leaves the instance torn down. -/
theorem tearDown_tornDown (site : Site δ) (graceful : Bool) (i : Instance) (w : World κ) :
    TornDown i (i.tearDown site graceful w).1 := by
  have finished := i.joinMonitor_over site w
  have kept := i.joinMonitor_transport site w
  have joinedSound := fun sound : i.IsSound => sound.joinMonitor site w
  unfold tearDown
  generalize i.joinMonitor site w = joined at finished kept joinedSound ⊢
  obtain ⟨j, w₁⟩ := joined
  obtain ⟨f, dismissed⟩ := j.dismiss_frame site.settings w₁
  dsimp only at finished kept ⊢
  have asked : ∃ g, (if graceful then j.dismiss site.settings w₁ else (j, w₁)).1 =
      { j with transport := j.transport.map g } := by
    split
    · exact ⟨f, dismissed⟩
    · exact ⟨fun t => t, by rw [Option.map_id']⟩
  have askedSound : i.IsSound →
      (if graceful then j.dismiss site.settings w₁ else (j, w₁)).1.IsSound := fun sound => by
    split
    · exact (joinedSound sound).dismiss w₁ site.settings
    · exact joinedSound sound
  obtain ⟨g, asked⟩ := asked
  generalize (if graceful then j.dismiss site.settings w₁ else (j, w₁)) = last
    at asked askedSound ⊢
  obtain ⟨l, w₂⟩ := last
  cases asked
  have torn := disconnect_tornDown (i := i) (j := { j with transport := j.transport.map g }) w₂
    finished (by simpa using kept) askedSound
  exact torn.of_child (endProcess_frame site.settings _ _)

theorem retire_tornDown (site : Site δ) (graceful : Bool) (last : Lifecycle) (i : Instance)
    (w : World κ) : TornDown i (i.retire site graceful last w).1 :=
  (i.tearDown_tornDown site graceful w).at_stage (transition_frame site last _ _)

theorem stage_retire (site : Site δ) (graceful : Bool) (last : Lifecycle) (i : Instance)
    (w : World κ) : (i.retire site graceful last w).1.stage = last :=
  stage_transition site last _ _

end Instance

namespace Table

variable {β : Type}

theorem mem_keys_of_get? {t : Table β} {key : Text} {value : β} (found : t.get? key = some value) :
    key ∈ t.keys := by
  obtain ⟨e, present, -⟩ := Option.map_eq_some_iff.mp found
  have same : e.1 = key := by simpa using List.find?_some present
  exact List.mem_map.mpr ⟨e, List.mem_of_find?_eq_some present, same⟩

end Table

namespace Controller

variable {δ κ : Type}

theorem slot_setSlot (id other : Text) (s : Slot) (c : Controller δ κ) :
    (c.setSlot id s).slot other = if id = other then s else c.slot other := by
  unfold slot setSlot
  rw [Table.get?_insert]
  split <;> rfl

theorem mem_occupied {id : Text} {c : Controller δ κ} : id ∈ c.occupied ↔ c.hasInstance id := by
  refine ⟨fun member => (List.mem_filter.mp member).2, fun present => ?_⟩
  refine List.mem_filter.mpr ⟨?_, present⟩
  unfold hasInstance instance? slot at present
  cases found : c.slots.get? id with
  | none =>
    rw [found] at present
    cases present
  | some s => exact Table.mem_keys_of_get? found

variable [Document δ] [Kernel κ]

/-- What is taken out is torn down and stopped, and nothing but its slot is changed in the list. -/
theorem takeOut_spec (id : Text) (graceful : Bool) (i : Instance) (c : Controller δ κ) :
    (c.takeOut id graceful i).1.stage = .stopped ∧
      i.TornDown (c.takeOut id graceful i).1 ∧
      ∀ other, (c.takeOut id graceful i).2.slot other =
        if id = other then (c.slot id).detach (c.takeOut id graceful i).1 else c.slot other := by
  have stage := i.stage_retire c.site graceful .stopped c.world
  have torn := i.retire_tornDown c.site graceful .stopped c.world
  unfold takeOut
  generalize i.retire c.site graceful .stopped c.world = retired at stage torn ⊢
  obtain ⟨j, w⟩ := retired
  obtain ⟨child, released⟩ := j.releaseChild_frame w
  refine ⟨?_, torn.of_child ⟨child, released⟩, fun other => slot_setSlot id other _ _⟩
  dsimp only at stage released ⊢
  rw [released]
  exact stage

theorem halt_eq (id : Text) (c : Controller δ κ) : c.halt id = (.ok (), (c.evict id).2) := rfl

theorem evict_of_none {id : Text} {c : Controller δ κ} (absent : c.instance? id = none) :
    c.evict id = (none, c) := by
  simp [evict, absent]

theorem evict_eq_takeOut {id : Text} {c : Controller δ κ} {i : Instance}
    (present : c.instance? id = some i) :
    ∃ w, c.evict id =
      (some (takeOut id true i { c with world := w }).1,
        (takeOut id true i { c with world := w }).2) := by
  refine ⟨c.announceStop id, ?_⟩
  simp only [evict, present]

theorem evict_of_some {id : Text} {c : Controller δ κ} {i : Instance}
    (present : c.instance? id = some i) :
    ∃ gone, (c.evict id).1 = some gone ∧ gone.stage = .stopped ∧ i.TornDown gone ∧
      ∀ other, (c.evict id).2.slot other =
        if id = other then (c.slot id).detach gone else c.slot other := by
  obtain ⟨w, same⟩ := evict_eq_takeOut present
  obtain ⟨stage, torn, slots⟩ := takeOut_spec id true i { c with world := w }
  rw [same]
  exact ⟨_, rfl, stage, torn, slots⟩

theorem instance?_stop (id other : Text) (c : Controller δ κ) :
    (c.stop id).instance? other = if id = other then none else c.instance? other := by
  unfold stop instance?
  rw [halt_eq]
  cases present : c.instance? id with
  | none =>
    rw [evict_of_none present]
    split
    · rename_i same
      rw [← same]
      exact present
    · rfl
  | some i =>
    obtain ⟨gone, -, -, -, slots⟩ := evict_of_some present
    rw [slots other]
    split <;> rfl

theorem stopNext_eq (c : Controller δ κ) (id : Text) : c.stopNext id = c.stop id := rfl

theorem instance?_stopEach (ids : List Text) (other : Text) (c : Controller δ κ) :
    (ids.foldl stopNext c).instance? other = if other ∈ ids then none else c.instance? other := by
  induction ids generalizing c with
  | nil => simp
  | cons id ids ih =>
    rw [List.foldl_cons, ih, stopNext_eq, instance?_stop]
    by_cases same : id = other
    · simp [same]
    · simp [same, Ne.symm same]

theorem hasInstance_stopAll (id : Text) (c : Controller δ κ) :
    c.stopAll.hasInstance id = false := by
  unfold hasInstance stopAll
  rw [instance?_stopEach]
  by_cases present : c.hasInstance id
  · simp [mem_occupied.mpr present]
  · rw [if_neg fun member => present (mem_occupied.mp member)]
    simpa [hasInstance] using present

end Controller

end ProviderHost
