import ProviderHost.Proofs.Lifecycle.Slots
import ProviderHost.Proofs.Store.Refusal

/-!
# The protection of providers that are in use

The controller tells the registry which providers have an instance, for as long as it is there. So
what the registry refuses follows from who has come and gone, and that can be read off the answers.
-/

namespace ProviderHost

def Refused {α : Type} (code : Text) (answer : Except Fault α) : Prop :=
  ∃ f, answer = .error f ∧ f.code = code

/-- A registry, and the controller that watches over it until it is destroyed. -/
structure Host (δ κ : Type) where
  controller : Controller δ κ
  destroyed : Bool := false

namespace Host

variable {δ κ : Type}

def inUse (h : Host δ κ) (id : Text) : Bool := !h.destroyed && h.controller.hasInstance id

def withFiles (files : Files) (h : Host δ κ) : Host δ κ :=
  { h with
    controller := { h.controller with world := { h.controller.world with files := files } } }

/-- What happens to a host. The registry may be changed past the controller, and the files past
the registry. -/
inductive Event (κ : Type) where
  | request (r : Controller.Request)
  | disturb (change : κ → κ)
  | amend (id : Text) (p : Patch)
  | strike (id : Text)
  | rewrite (change : Files → Files)
  | destroy

inductive Reply where
  | nothing
  | answer (a : Controller.Answer)
  | amend (r : Except Fault Definition)
  | strike (r : Except Fault Unit)

variable [Document δ]

def amend (id : Text) (p : Patch) (h : Host δ κ) : Except Fault Definition × Host δ κ :=
  match Store.update δ h.inUse id p h.controller.world.files h.controller.site.registry with
  | (r, files) => (r.mapError StoreFault.fault, h.withFiles files)

def strike (id : Text) (h : Host δ κ) : Except Fault Unit × Host δ κ :=
  match Store.remove δ h.inUse id h.controller.world.files h.controller.site.registry with
  | (r, files) => (r.mapError StoreFault.fault, h.withFiles files)

variable [Kernel κ]

/-- Destroys the controller, which stops all providers first. -/
def destroy (h : Host δ κ) : Host δ κ := { controller := h.controller.stopAll, destroyed := true }

/-- Asks the controller for something. One that was destroyed serves nothing. -/
def ask (r : Controller.Request) (h : Host δ κ) : Reply × Host δ κ :=
  if h.destroyed then (.nothing, h)
  else
    match h.controller.serve r with
    | (a, c) => (.answer a, { h with controller := c })

def step (h : Host δ κ) : Event κ → Reply × Host δ κ
  | .request r => h.ask r
  | .disturb change => (.nothing, { h with controller := h.controller.disturb change })
  | .amend id p => (h.amend id p).map .amend fun h => h
  | .strike id => (h.strike id).map .strike fun h => h
  | .rewrite change => (.nothing, h.withFiles (change h.controller.world.files))
  | .destroy => (.nothing, h.destroy)

theorem ask_of_destroyed {h : Host δ κ} (destroyed : h.destroyed) (r : Controller.Request) :
    h.ask r = (.nothing, h) := if_pos destroyed

theorem ask_of_present {h : Host δ κ} (there : ¬ h.destroyed) (r : Controller.Request) :
    h.ask r =
      (.answer (h.controller.serve r).1, { h with controller := (h.controller.serve r).2 }) :=
  if_neg there

/-! ### Who has an instance -/

/-- What an event and its reply say about whether a provider has an instance now. -/
def bears? (id : Text) : Event κ × Reply → Option Bool
  | (.request r, .answer a) => if r.owner = id then r.bears? a else none
  | (.destroy, _) => some false
  | _ => none

/-- Whether a provider has an instance, by the latest event that says so. -/
def Occupied (id : Text) (history : List (Event κ × Reply)) : Bool :=
  (history.filterMap (bears? id)).getLast?.getD false

def Sound (h : Host δ κ) : Prop := h.destroyed → ∀ id, h.controller.hasInstance id = false

omit [Document δ] [Kernel κ] in
theorem inUse_of_sound {h : Host δ κ} (sound : h.Sound) (id : Text) :
    h.inUse id = h.controller.hasInstance id := by
  unfold inUse
  cases destroyed : h.destroyed with
  | false => rfl
  | true => rw [sound destroyed id]; rfl

theorem step_sound {h : Host δ κ} (sound : h.Sound) (e : Event κ) : (h.step e).2.Sound := by
  cases e with
  | request r =>
    by_cases destroyed : h.destroyed
    · rw [step, ask_of_destroyed destroyed]
      exact sound
    · rw [step, ask_of_present destroyed]
      exact fun ended => absurd ended destroyed
  | disturb change | amend id p | strike id | rewrite change => exact sound
  | destroy => exact fun _ id => Controller.hasInstance_stopAll id h.controller

theorem step_destroyed {h : Host δ κ} (destroyed : h.destroyed) (e : Event κ) :
    (h.step e).2.destroyed := by
  cases e with
  | request r =>
    rw [step, ask_of_destroyed destroyed]
    exact destroyed
  | disturb change | amend id p | strike id | rewrite change => exact destroyed
  | destroy => rfl

/-- An event changes whether a provider has an instance as the event and its reply say, or not at
all. -/
theorem step_bears (h : Host δ κ) (e : Event κ) (id : Text) :
    (h.step e).2.controller.hasInstance id =
      (bears? id (e, (h.step e).1)).getD (h.controller.hasInstance id) := by
  cases e with
  | request r =>
    by_cases destroyed : h.destroyed
    · rw [step, ask_of_destroyed destroyed]
      rfl
    · rw [step, ask_of_present destroyed]
      dsimp only [bears?]
      split
      · rename_i owned
        subst owned
        exact Controller.hasInstance_serve r h.controller
      · rename_i other
        exact congrArg (·.live.isSome)
          ((Controller.sameBut_serve r h.controller).slot id (Ne.symm other))
  | disturb change | amend id' p | strike id' | rewrite change => rfl
  | destroy => exact Controller.hasInstance_stopAll id h.controller

theorem run_sound {h : Host δ κ} (sound : h.Sound) (events : List (Event κ)) :
    (takeSteps step h events).2.Sound := by
  induction events generalizing h with
  | nil => exact sound
  | cons e events ih => exact ih (step_sound sound e)

theorem run_destroyed {h : Host δ κ} (destroyed : h.destroyed) (events : List (Event κ)) :
    (takeSteps step h events).2.destroyed := by
  induction events generalizing h with
  | nil => exact destroyed
  | cons e events ih => exact ih (step_destroyed destroyed e)

theorem run_bears (h : Host δ κ) (events : List (Event κ)) (id : Text) :
    (takeSteps step h events).2.controller.hasInstance id =
      ((takeSteps step h events).1.filterMap (bears? id)).getLast?.getD
        (h.controller.hasInstance id) := by
  induction events generalizing h with
  | nil => rfl
  | cons e events ih =>
    refine (ih (h.step e).2).trans ?_
    rw [h.step_bears e id, takeSteps_cons]
    cases said : bears? id (e, (h.step e).1) with
    | none => rw [List.filterMap_cons_none said]; rfl
    | some b => rw [List.filterMap_cons_some said, List.getLast?_cons]; rfl

/-! ### What is refused -/

section

variable {f : Text → Bool} {id : Text} {p : Patch} {files : Files} {path : Text}

omit [Document δ] [Kernel κ] in
theorem refused_mapError {α : Type} {code : Text} {r : Except StoreFault α} :
    Refused code (r.mapError StoreFault.fault) ↔
      ∃ cause, r = .error cause ∧ cause.fault.code = code := by
  cases r with
  | ok a => exact ⟨nofun, nofun⟩
  | error cause =>
    constructor
    · rintro ⟨f, failed, same⟩
      cases failed
      exact ⟨cause, rfl, same⟩
    · rintro ⟨cause', failed, same⟩
      cases failed
      exact ⟨_, rfl, same⟩

omit [Kernel κ] in
theorem refused_update :
    Refused "provider_in_use" ((Store.update δ f id p files path).1.mapError StoreFault.fault) ↔
      p.Keeps id ∧ p.changesLaunch ∧ f id :=
  refused_mapError.trans Store.update_inUse

omit [Kernel κ] in
theorem refused_update_of_id :
    Refused "immutable_id" ((Store.update δ f id p files path).1.mapError StoreFault.fault) ↔
      ¬ p.Keeps id :=
  refused_mapError.trans Store.update_immutable

omit [Kernel κ] in
theorem refused_remove :
    Refused "provider_in_use" ((Store.remove δ f id files path).1.mapError StoreFault.fault) ↔
      f id :=
  refused_mapError.trans Store.remove_inUse

omit [Kernel κ] in
theorem files_of_refused_update {code : Text}
    (known : code = "provider_in_use" ∨ code = "immutable_id")
    (refused : Refused code ((Store.update δ f id p files path).1.mapError StoreFault.fault)) :
    (Store.update δ f id p files path).2 = files := by
  obtain ⟨cause, failed, rfl⟩ := refused_mapError.mp refused
  exact Store.update_files_of_refuses (StoreFault.refuses_of_code known) failed

omit [Kernel κ] in
theorem files_of_refused_remove
    (refused : Refused "provider_in_use"
      ((Store.remove δ f id files path).1.mapError StoreFault.fault)) :
    (Store.remove δ f id files path).2 = files := by
  obtain ⟨cause, failed, code⟩ := refused_mapError.mp refused
  exact Store.remove_files_of_refuses (StoreFault.refuses_of_code (.inl code)) failed

end

/-- The registry protects a provider, in whatever way it is to be changed, exactly if it is used.
A patch for another id is refused as such, used or not. -/
structure Protects (h : Host δ κ) (id : Text) (used : Bool) : Prop where
  amend (p : Patch) :
    Refused "provider_in_use" (h.amend id p).1 ↔ p.Keeps id ∧ p.changesLaunch ∧ used
  update (p : Patch) :
    Refused "provider_in_use" (h.controller.update id p).1 ↔ p.Keeps id ∧ p.changesLaunch ∧ used
  amend_id (p : Patch) : Refused "immutable_id" (h.amend id p).1 ↔ ¬ p.Keeps id
  update_id (p : Patch) : Refused "immutable_id" (h.controller.update id p).1 ↔ ¬ p.Keeps id
  strike : Refused "provider_in_use" (h.strike id).1 ↔ used
  uninstall : ¬ Refused "provider_in_use" (h.controller.uninstall id).1

/-- What is refused leaves the registry and the controller as they were. -/
structure Harmless (h : Host δ κ) (id : Text) : Prop where
  amend (p : Patch) {code : Text} (known : code = "provider_in_use" ∨ code = "immutable_id") :
    Refused code (h.amend id p).1 → (h.amend id p).2 = h
  update (p : Patch) {code : Text} (known : code = "provider_in_use" ∨ code = "immutable_id") :
    Refused code (h.controller.update id p).1 → (h.controller.update id p).2 = h.controller
  strike : Refused "provider_in_use" (h.strike id).1 → (h.strike id).2 = h

theorem refused_uninstall (id : Text) (c : Controller δ κ) :
    ¬ Refused "provider_in_use" (c.uninstall id).1 := by
  have gone := Controller.hasInstance_evict id c
  unfold Controller.uninstall
  rw [Controller.halt_eq]
  rintro ⟨f, failed, code⟩
  dsimp only at failed
  split at failed
  · rename_i removed
    cases failed
    have used := refused_remove.mp (refused_mapError.mpr
      ⟨_, congrArg Prod.fst removed, code⟩)
    exact absurd used (Bool.eq_false_iff.mp gone)
  · cases failed

theorem protects_of_sound {h : Host δ κ} (sound : h.Sound) (id : Text) :
    h.Protects id (h.controller.hasInstance id) where
  amend p := by
    rw [← inUse_of_sound sound]
    exact refused_update
  update p := refused_update
  amend_id p := refused_update_of_id
  update_id p := refused_update_of_id
  strike := by
    rw [← inUse_of_sound sound]
    exact refused_remove
  uninstall := refused_uninstall id h.controller

omit [Kernel κ] in
theorem harmless (h : Host δ κ) (id : Text) : h.Harmless id where
  amend _ _ known refused := congrArg (withFiles · h) (files_of_refused_update known refused)
  update _ _ known refused :=
    congrArg (fun files => (h.withFiles files).controller) (files_of_refused_update known refused)
  strike refused := congrArg (withFiles · h) (files_of_refused_remove refused)

/-- After a provider was stopped, it has no instance, whoever has stopped it before. -/
theorem hasInstance_ask_stop {h : Host δ κ} (sound : h.Sound) (id : Text) :
    (h.step (.request (.stop id))).2.controller.hasInstance id = false := by
  by_cases destroyed : h.destroyed
  · rw [step, ask_of_destroyed destroyed]
    exact sound destroyed id
  · rw [step, ask_of_present destroyed]
    exact Controller.hasInstance_evict id h.controller

/-- Whatever has happened to a host and its files, a provider has an instance as the latest event
says that has brought one in or taken one out, and the registry refuses to change how a provider is
launched, or to remove it, exactly if the provider has one, whatever the stage of that instance. A
patch for another id is refused in any case. What is refused changes nothing. A provider that was
just stopped is not protected, nor is any once the controller was destroyed; and nothing that is
to be uninstalled is. -/
theorem protection_follows_the_instances (site : Site δ) (w : World κ) (events : List (Event κ))
    (id : Text) :
    let fresh : Host δ κ := { controller := { site := site, world := w } }
    let (history, h) := takeSteps step fresh events
    h.controller.hasInstance id = Occupied id history ∧
    h.Protects id (h.controller.hasInstance id) ∧ h.Harmless id ∧
    (h.step (.request (.stop id))).2.Protects id false ∧
    ∀ later, (takeSteps step h.destroy later).2.Protects id false := by
  intro fresh
  have sound : (takeSteps step fresh events).2.Sound :=
    run_sound (fun destroyed => absurd destroyed Bool.false_ne_true) events
  refine ⟨run_bears fresh events id, protects_of_sound sound id, harmless _ id, ?_,
    fun later => ?_⟩
  · have stopped := step_sound sound (.request (.stop id))
    rw [← hasInstance_ask_stop sound id]
    exact protects_of_sound stopped id
  · have destroyed : (takeSteps step fresh events).2.destroy.Sound :=
      fun _ id => Controller.hasInstance_stopAll id _
    have after := run_sound destroyed later
    rw [← after (run_destroyed rfl later) id]
    exact protects_of_sound after id

end Host

end ProviderHost
