import ProviderHost.Proofs.Store.Calls

/-!
# What the registry refuses

A change is refused before the registry is read: one of the id always, one of what a provider is
launched with while the provider is in use. Nothing that goes wrong later looks like that refusal,
and a refused change leaves the files as they are.
-/

namespace ProviderHost

/-- Whether a fault says that a change is refused before the registry is read. -/
def StoreFault.Refuses : StoreFault → Prop
  | .immutableId _ _ | .inUse _ _ => True
  | _ => False

theorem StoreFault.refuses_of_code {cause : StoreFault}
    (code : cause.fault.code = "provider_in_use" ∨ cause.fault.code = "immutable_id") :
    cause.Refuses := by
  cases cause with
  | immutableId id wanted | inUse action id => trivial
  | invalid cause =>
    cases cause with
    | badUrl cause => cases cause <;> rcases code with same | same <;> cases same
    | _ => rcases code with same | same <;> cases same
  | _ => rcases code with same | same <;> cases same

theorem StoreFault.IsLate.not_refuses {cause : StoreFault} (late : cause.IsLate) :
    ¬ cause.Refuses := by
  cases cause with
  | immutableId id wanted | inUse action id => exact late.elim
  | _ => exact not_false

theorem StoreFault.eq_unreadable_of_code {cause : StoreFault}
    (code : cause.fault.code = "registry_read_failed") : ∃ path, cause = .unreadable path := by
  cases cause with
  | unreadable path => exact ⟨path, rfl⟩
  | invalid cause =>
    cases cause with
    | badUrl cause => cases cause <;> cases code
    | _ => cases code
  | _ => cases code

namespace Store

variable {δ : Type} [Document δ] {cause : StoreFault} {files : Files} {path : Text}

theorem perform_not_refused {f : Text → Bool} (call : Call)
    (failed : (call.perform δ f files path).1 = .error cause) :
    call.refusal? f = some cause ∨ call.refusal? f = none ∧ ¬ cause.Refuses := by
  rcases perform_error failed with refused | ⟨free, loaded | late⟩
  · exact .inl refused
  · refine .inr ⟨free, ?_⟩
    rcases load_eq_error loaded with ⟨rfl, -⟩ | rfl <;> exact not_false
  · exact .inr ⟨free, late.not_refuses⟩

/-- What does not look like a refusal is none: an update that fails like one was refused. -/
theorem update_error {f : Text → Bool} {id : Text} {p : Patch}
    (failed : (update δ f id p files path).1 = .error cause) :
    refuseUpdate f id p = some cause ∨ refuseUpdate f id p = none ∧ ¬ cause.Refuses :=
  perform_not_refused (.update id p) (congrArg (Except.map _) failed)

theorem remove_error {f : Text → Bool} {id : Text}
    (failed : (remove δ f id files path).1 = .error cause) : f id = true ∨ ¬ cause.Refuses := by
  rcases perform_not_refused (f := f) (.remove id) (congrArg (Except.map _) failed) with
    refused | ⟨-, other⟩
  · dsimp only [Call.refusal?] at refused
    split at refused
    · exact .inl ‹_›
    · cases refused
  · exact .inr other

theorem update_congr {f g : Text → Bool} {id : Text} (same : f id = g id) (p : Patch)
    (files : Files) (path : Text) : update δ f id p files path = update δ g id p files path := by
  simp only [update, refuseUpdate, same]

theorem remove_congr {f g : Text → Bool} {id : Text} (same : f id = g id) (files : Files)
    (path : Text) : remove δ f id files path = remove δ g id files path := by
  simp only [remove, same]

theorem refuseUpdate_of_other {f : Text → Bool} {id wanted : Text} {p : Patch}
    (carried : p.id = some wanted) (other : wanted ≠ id) :
    refuseUpdate f id p = some (.immutableId id wanted) := by
  have kept : p.id.filter (· ≠ id) = some wanted := by
    rw [carried, Option.filter_some, if_pos (decide_eq_true other)]
  rw [refuseUpdate, kept]

theorem refuseUpdate_of_keeps {f : Text → Bool} {id : Text} {p : Patch} (keeps : p.Keeps id) :
    refuseUpdate f id p =
      if p.changesLaunch ∧ f id then some (.inUse "change the launch settings of" id)
      else none := by
  have same : p.id.filter (· ≠ id) = none := by
    simpa [Option.filter_eq_none_iff, Patch.Keeps] using keeps
  rw [refuseUpdate, same]

theorem update_of_refused {f : Text → Bool} {id : Text} {p : Patch}
    (refused : refuseUpdate f id p = some cause) :
    update δ f id p files path = (.error cause, files) := by
  rw [update, refused]

theorem remove_of_used {f : Text → Bool} {id : Text} (used : f id = true) :
    remove δ f id files path = (.error (.inUse "remove" id), files) := by
  rw [remove, if_pos used]

/-- An update is refused for its id exactly if it carries another one. -/
theorem update_immutable {f : Text → Bool} {id : Text} {p : Patch} :
    (∃ cause, (update δ f id p files path).1 = .error cause ∧
      cause.fault.code = "immutable_id") ↔ ¬ p.Keeps id := by
  constructor
  · rintro ⟨cause, failed, code⟩ keeps
    have refused := (update_error failed).resolve_right fun other =>
      other.2 (StoreFault.refuses_of_code (.inr code))
    rw [refuseUpdate_of_keeps keeps] at refused
    split at refused <;> cases refused
    cases code
  · intro other
    obtain ⟨wanted, carried, different⟩ : ∃ wanted, p.id = some wanted ∧ wanted ≠ id := by
      simpa [Patch.Keeps] using other
    exact ⟨_, congrArg Prod.fst (update_of_refused (refuseUpdate_of_other carried different)), rfl⟩

/-- An update is refused for being in use exactly if it would change how a provider that is in use
is launched. -/
theorem update_inUse {f : Text → Bool} {id : Text} {p : Patch} :
    (∃ cause, (update δ f id p files path).1 = .error cause ∧
      cause.fault.code = "provider_in_use") ↔ p.Keeps id ∧ p.changesLaunch ∧ f id := by
  constructor
  · rintro ⟨cause, failed, code⟩
    have refused := (update_error failed).resolve_right fun other =>
      other.2 (StoreFault.refuses_of_code (.inl code))
    unfold refuseUpdate at refused
    split at refused
    · cases refused
      cases code
    · rename_i same
      split at refused
      · refine ⟨?_, ‹_›⟩
        simpa [Option.filter_eq_none_iff, Patch.Keeps] using same
      · cases refused
  · rintro ⟨keeps, changes⟩
    have refused := (refuseUpdate_of_keeps (f := f) keeps).trans (if_pos changes)
    exact ⟨_, congrArg Prod.fst (update_of_refused refused), rfl⟩

theorem remove_inUse {f : Text → Bool} {id : Text} :
    (∃ cause, (remove δ f id files path).1 = .error cause ∧
      cause.fault.code = "provider_in_use") ↔ f id := by
  constructor
  · rintro ⟨cause, failed, code⟩
    exact (remove_error failed).resolve_right fun other =>
      other (StoreFault.refuses_of_code (.inl code))
  · intro used
    exact ⟨_, congrArg Prod.fst (remove_of_used used), rfl⟩

theorem update_files_of_refuses {f : Text → Bool} {id : Text} {p : Patch} (refuses : cause.Refuses)
    (failed : (update δ f id p files path).1 = .error cause) :
    (update δ f id p files path).2 = files := by
  have refused := (update_error failed).resolve_right fun other => other.2 refuses
  exact congrArg Prod.snd (update_of_refused refused)

theorem remove_files_of_refuses {f : Text → Bool} {id : Text} (refuses : cause.Refuses)
    (failed : (remove δ f id files path).1 = .error cause) :
    (remove δ f id files path).2 = files := by
  have used := (remove_error failed).resolve_right fun other => other refuses
  exact congrArg Prod.snd (remove_of_used used)

/-! ### Before the registry -/

/-- Whether a call is refused, whatever the files hold. -/
def Call.IsRefused (f : Text → Bool) : Call → Prop
  | create _ d => d.check ≠ .ok ()
  | update id p => ¬ p.Keeps id ∨ p.changesLaunch ∧ f id
  | remove id => f id
  | get _ | list | recordStatus _ _ => False

theorem refusal?_eq_none_iff {f : Text → Bool} {call : Call} :
    call.refusal? f = none ↔ ¬ call.IsRefused f := by
  cases call with
  | create drawn d =>
    simp only [Call.refusal?, Call.IsRefused]
    cases d.check with
    | error cause => simp
    | ok _ => simp
  | update id p =>
    simp only [Call.refusal?, Call.IsRefused]
    by_cases keeps : p.Keeps id
    · rw [refuseUpdate_of_keeps keeps]
      simp [keeps]
    · obtain ⟨wanted, carried, different⟩ : ∃ wanted, p.id = some wanted ∧ wanted ≠ id := by
        simpa [Patch.Keeps] using keeps
      rw [refuseUpdate_of_other carried different]
      simp [keeps]
  | remove id => simp [Call.refusal?, Call.IsRefused]
  | get id | list | recordStatus id status => simp [Call.refusal?, Call.IsRefused]

theorem refusal?_ne_unreadable {f : Text → Bool} {call : Call} :
    call.refusal? f ≠ some (.unreadable path) := by
  intro refused
  cases call with
  | create drawn d =>
    dsimp only [Call.refusal?] at refused
    split at refused <;> cases refused
  | update id p =>
    dsimp only [Call.refusal?, refuseUpdate] at refused
    split at refused
    · cases refused
    · split at refused <;> cases refused
  | remove id =>
    dsimp only [Call.refusal?] at refused
    split at refused <;> cases refused
  | get id | list | recordStatus id status => cases refused

theorem perform_of_isSealed {f : Text → Bool} {call : Call} (shut : IsSealed files path) :
    (call.perform δ f files path).2 = files ∧
      (¬ call.IsRefused f → (call.perform δ f files path).1 = .error (.unreadable path)) := by
  rw [perform_eq, load_of_isSealed shut, ← refusal?_eq_none_iff]
  cases call.refusal? f with
  | some cause => exact ⟨rfl, nofun⟩
  | none => exact ⟨rfl, fun _ => rfl⟩

theorem perform_unreadable {f : Text → Bool} {call : Call} {shut : Text}
    (failed : (call.perform δ f files path).1 = .error (.unreadable shut)) :
    IsSealed files path ∧ ¬ call.IsRefused f := by
  rcases perform_error failed with refused | ⟨free, loaded | late⟩
  · exact absurd refused refusal?_ne_unreadable
  · rcases load_eq_error loaded with ⟨-, isSealed⟩ | other
    · exact ⟨isSealed, refusal?_eq_none_iff.mp free⟩
    · cases other
  · exact late.elim

/-- A definition that is rejected, a patch for another id, a change to how a provider in use is
launched, and its removal are refused in every file system alike, and leave it as it is. A registry
that is there and cannot be opened makes all calls fail that are not refused, and no others; nothing
is changed either. -/
theorem refusals_come_before_the_registry (f : Text → Bool) (path : Text) :
    (∀ drawn d cause, d.check = .error cause → ∀ files,
      create δ drawn d files path = (.error (.invalid cause), files)) ∧
    (∀ id p, ¬ p.Keeps id → ∃ cause : StoreFault, cause.fault.code = "immutable_id" ∧
      ∀ files, update δ f id p files path = (.error cause, files)) ∧
    (∀ id p, p.Keeps id → p.changesLaunch → f id →
      ∃ cause : StoreFault, cause.fault.code = "provider_in_use" ∧
        ∀ files, update δ f id p files path = (.error cause, files)) ∧
    (∀ id, f id → ∃ cause : StoreFault, cause.fault.code = "provider_in_use" ∧
      ∀ files, remove δ f id files path = (.error cause, files)) ∧
    ∀ (call : Call) files,
      (IsSealed files path → (call.perform δ f files path).2 = files) ∧
      ((∃ cause, (call.perform δ f files path).1 = .error cause ∧
          cause.fault.code = "registry_read_failed") ↔
        IsSealed files path ∧ ¬ call.IsRefused f) := by
  refine ⟨fun drawn d cause rejected files => ?_, fun id p other => ?_,
    fun id p keeps changes used => ?_, fun id used => ?_, fun call files => ⟨fun shut => ?_, ?_, ?_⟩⟩
  · rw [create, rejected]
  · obtain ⟨wanted, carried, different⟩ : ∃ wanted, p.id = some wanted ∧ wanted ≠ id := by
      simpa [Patch.Keeps] using other
    exact ⟨_, rfl, fun files => update_of_refused (refuseUpdate_of_other carried different)⟩
  · have refused := (refuseUpdate_of_keeps (f := f) keeps).trans (if_pos ⟨changes, used⟩)
    exact ⟨_, rfl, fun files => update_of_refused refused⟩
  · exact ⟨_, rfl, fun files => remove_of_used used⟩
  · exact (perform_of_isSealed shut).1
  · rintro ⟨cause, failed, code⟩
    obtain ⟨shut, rfl⟩ := StoreFault.eq_unreadable_of_code code
    exact perform_unreadable failed
  · rintro ⟨shut, free⟩
    exact ⟨_, (perform_of_isSealed shut).2 free, rfl⟩

end Store

end ProviderHost
