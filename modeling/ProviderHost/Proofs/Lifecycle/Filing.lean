import ProviderHost.Proofs.Lifecycle.Requests
import ProviderHost.Proofs.Lifecycle.Stopping

/-!
# What is written to the files

The host writes to the files through the registry alone. So what the registry keeps true of the
files stays true, whatever is done with the providers; and a registry that cannot be read keeps
the files as they are.
-/

namespace ProviderHost

/-- What the registry at a path keeps true of the files. -/
structure Store.Keeps (δ : Type) [Document δ] (path : Text) (P : Files → Prop) : Prop where
  recordStatus : ∀ id status {files}, P files → P (recordStatus δ id status files path).2
  update : ∀ f id p {files}, P files → P (update δ f id p files path).2
  remove : ∀ f id {files}, P files → P (remove δ f id files path).2

section

variable {δ : Type} [Document δ]

/-- A registry that cannot be read changes nothing. -/
theorem Store.keeps_of_unreadable {path : Text} {files : Files} {cause : StoreFault}
    (unreadable : (load files path : Except StoreFault δ) = .error cause) :
    Keeps δ path (· = files) where
  recordStatus id status := by
    rintro _ rfl
    rw [Store.recordStatus, unreadable]
  update f id p := by
    rintro _ rfl
    unfold Store.update
    rw [unreadable]
    split <;> rfl
  remove f id := by
    rintro _ rfl
    unfold Store.remove
    rw [unreadable]
    split <;> rfl

end

variable {δ κ : Type} [Kernel κ]

namespace Instance

/-! ### Steps that write nothing -/

theorem files_dismiss (s : Settings) (i : Instance) (w : World κ) :
    (i.dismiss s w).2.files = w.files := by
  unfold dismiss
  cases i.peer? with
  | none => rfl
  | some peer =>
    dsimp only
    split
    · generalize Kernel.dismiss peer s.shutdownTimeout w.kernel = asked
      obtain ⟨answer, k⟩ := asked
      cases answer with
      | ok => rfl
      | error f =>
        unfold reportDismissal
        cases i.transport <;> rfl
    · rfl

theorem files_endProcess (s : Settings) (i : Instance) (w : World κ) :
    (i.endProcess s w).2.files = w.files := by
  unfold endProcess
  cases i.child <;> rfl

theorem files_releaseChild (i : Instance) (w : World κ) :
    (i.releaseChild w).2.files = w.files := by
  unfold releaseChild
  cases i.child <;> rfl

omit [Kernel κ] in
theorem files_connectProcess (s : Settings) (d : Definition) (c : Child) (i : Instance)
    (w : World κ) : (i.connectProcess s d c w).2.2.files = w.files := by
  unfold connectProcess
  dsimp only
  split <;> rfl

theorem files_launchProcess (site : Site δ) (d : Definition) (i : Instance) (w : World κ) :
    (i.launchProcess site d w).2.2.files = w.files := by
  unfold launchProcess
  dsimp only
  split
  · rfl
  · split
    · rfl
    · exact files_connectProcess site.settings d _ i _

theorem files_connect (site : Site δ) (d : Definition) (i : Instance) (w : World κ) :
    (i.connect site d w).2.2.files = w.files := by
  unfold connect
  split
  · exact files_launchProcess site d i w
  · rfl

theorem files_explainSilence (cause : Fault) (i : Instance) (w : World κ) :
    (i.explainSilence cause w).2.2.files = w.files := by
  unfold explainSilence
  cases i.child with
  | none => rfl
  | some c =>
    dsimp only
    split <;> rfl

theorem files_greet (site : Site δ) (i : Instance) (w : World κ) :
    (i.greet site w).2.2.files = w.files := by
  unfold greet
  cases i.peer? with
  | none => rfl
  | some peer =>
    dsimp only
    split
    · rfl
    · exact files_explainSilence _ _ _

theorem files_establish (site : Site δ) (d : Definition) (i : Instance) (w : World κ) :
    (i.establish site d w).2.2.files = w.files := by
  have connected := files_connect site d i w
  unfold establish
  split
  · rename_i met
    rw [met] at connected
    exact connected
  · rename_i i₁ w₁ met
    rw [met] at connected
    have greeted := files_greet site i₁ w₁
    split
    · rename_i heard
      rw [heard] at greeted
      exact greeted.trans connected
    · rename_i i₂ w₂ heard
      rw [heard] at greeted
      have waited : (i₂.awaitReady site.settings w₂).2.2.files = w₂.files := rfl
      split <;> rename_i ready <;> rw [ready] at waited <;>
        exact waited.trans (greeted.trans connected)

/-! ### Steps that note a stage -/

variable [Document δ] {site : Site δ} {P : Files → Prop}
  (kept : Store.Keeps δ site.registry P) {w : World κ}
include kept

omit [Kernel κ] in
theorem transition_keeps (next : Lifecycle) (i : Instance) (holds : P w.files) :
    P (i.transition site next w).2.files := by
  have noted := kept.recordStatus i.id next.name holds
  unfold transition World.recordStatus
  split
  · exact holds
  · dsimp only [World.info]
    generalize Store.recordStatus δ i.id next.name w.files site.registry = outcome at noted ⊢
    obtain ⟨answer, files⟩ := outcome
    cases answer <;> exact noted

theorem monitorStep_keeps (i : Instance) (holds : P w.files) :
    P (i.monitorStep site w).2.files := by
  unfold monitorStep
  split
  · exact holds
  · exact holds
  · exact holds
  · have looked : (i.checkAlive w).2.2.files = w.files := rfl
    split <;> rename_i found <;> rw [found] at looked <;> exact looked ▸ holds
  · exact holds
  · split <;> exact holds
  · exact transition_keeps kept _ i holds
  · exact holds
  · exact transition_keeps kept _ i holds

theorem monitorSteps_keeps (n : Nat) (i : Instance) (holds : P w.files) :
    P (i.monitorSteps site n w).2.files := by
  induction n generalizing i w with
  | zero => exact holds
  | succ n ih =>
    unfold monitorSteps
    split
    · exact holds
    · exact ih _ (monitorStep_keeps kept i holds)

theorem monitorRound_keeps (i : Instance) (holds : P w.files) :
    P (i.monitorRound site w).2.files := by
  unfold monitorRound
  split
  · exact holds
  · exact monitorSteps_keeps kept roundLength _ (monitorStep_keeps kept i holds)

theorem joinMonitor_keeps (i : Instance) (holds : P w.files) :
    P (i.joinMonitor site w).2.files :=
  monitorStep_keeps kept _ (monitorSteps_keeps kept roundLength _ holds)

theorem tearDown_keeps (graceful : Bool) (i : Instance) (holds : P w.files) :
    P (i.tearDown site graceful w).2.files := by
  have joined := joinMonitor_keeps kept i holds
  unfold tearDown
  generalize i.joinMonitor site w = outcome at joined ⊢
  obtain ⟨i', w'⟩ := outcome
  dsimp only
  have asked : (if graceful then i'.dismiss site.settings w' else (i', w')).2.files = w'.files := by
    split
    · exact files_dismiss site.settings i' w'
    · rfl
  generalize (if graceful then i'.dismiss site.settings w' else (i', w')) = left at asked ⊢
  have ended := files_endProcess site.settings (left.1.disconnect left.2).1
    (left.1.disconnect left.2).2
  exact (ended.trans asked) ▸ joined

theorem retire_keeps (graceful : Bool) (last : Lifecycle) (i : Instance) (holds : P w.files) :
    P (i.retire site graceful last w).2.files :=
  transition_keeps kept last _ (tearDown_keeps kept graceful i holds)

theorem discard_keeps (i : Instance) (holds : P w.files) : P (i.discard site w).2.files := by
  have released := files_releaseChild
    ((i.joinMonitor site w).1.disconnect (i.joinMonitor site w).2).1
    ((i.joinMonitor site w).1.disconnect (i.joinMonitor site w).2).2
  exact released ▸ joinMonitor_keeps kept i holds

theorem abandon_keeps (cause : StartFault) (i : Instance) (holds : P w.files) :
    P (i.abandon site cause w).2.files := by
  have retired := retire_keeps kept false .error i
    (w := w.error ("provider " ++ i.id ++ " failed to start: " ++ cause.fault.message)) holds
  unfold abandon
  dsimp only
  generalize i.retire site false .error
    (w.error ("provider " ++ i.id ++ " failed to start: " ++ cause.fault.message)) = outcome
    at retired ⊢
  obtain ⟨i', w'⟩ := outcome
  exact files_releaseChild i' w' ▸ retired

theorem attempt_keeps (d : Definition) (holds : P w.files) :
    P (attempt site d w).2.2.files := by
  have begun := transition_keeps kept .starting (ofDefinition site.settings d) holds
  unfold attempt
  generalize (ofDefinition site.settings d).transition site .starting w = fresh at begun ⊢
  obtain ⟨i, w₁⟩ := fresh
  have made := files_establish site d i w₁
  dsimp only
  generalize i.establish site d w₁ = outcome at made ⊢
  obtain ⟨answer, i', w₂⟩ := outcome
  have left : P w₂.files := made ▸ begun
  cases answer with
  | error cause => exact abandon_keeps kept cause i' left
  | ok note => exact transition_keeps kept .running i' left

end Instance

namespace Controller

/-! ### Requests -/

variable [Document δ] {P : Files → Prop} {c : Controller δ κ}
  (kept : Store.Keeps δ c.site.registry P) (holds : P c.world.files)
include kept holds

theorem takeOut_keeps (id : Text) (graceful : Bool) (i : Instance) :
    P (c.takeOut id graceful i).2.world.files := by
  have retired := Instance.retire_keeps kept graceful .stopped i holds
  unfold takeOut
  generalize i.retire c.site graceful .stopped c.world = outcome at retired ⊢
  obtain ⟨i', w⟩ := outcome
  exact Instance.files_releaseChild i' w ▸ retired

theorem evict_keeps (id : Text) : P (c.evict id).2.world.files := by
  unfold evict
  cases c.instance? id with
  | none => exact holds
  | some i =>
    exact takeOut_keeps (c := { c with world := c.world.info ("stopping provider " ++ id) })
      kept holds id true i

theorem adopt_keeps (i : Instance) : P (c.adopt i).world.files := by
  unfold adopt
  cases c.instance? i.id with
  | none => exact holds
  | some old => exact Instance.discard_keeps kept old holds

theorem launch_keeps (d : Definition) : P (c.launch d).2.world.files := by
  have tried := Instance.attempt_keeps kept d holds
  unfold launch
  generalize Instance.attempt c.site d c.world = outcome at tried ⊢
  obtain ⟨answer, i, w⟩ := outcome
  cases answer with
  | error cause => exact tried
  | ok note => exact adopt_keeps (c := { c with world := w }) kept tried _

theorem startAnew_keeps (id : Text) : P (c.startAnew id).2.world.files := by
  unfold startAnew
  split
  · exact holds
  · exact launch_keeps kept holds _

theorem start_keeps (id : Text) : P (c.start id).2.world.files := by
  unfold start
  cases c.instance? id with
  | none => exact startAnew_keeps kept holds id
  | some i =>
    have checked : (i.checkLive c.site.settings c.world).2.2.files = c.world.files := rfl
    dsimp only
    generalize i.checkLive c.site.settings c.world = outcome at checked ⊢
    obtain ⟨live, j, w⟩ := outcome
    have left : P w.files := checked ▸ holds
    cases live with
    | true => exact left
    | false =>
      let stale : Controller δ κ :=
        { c with world := w.warn ("provider " ++ id ++ " has a stale instance, restarting") }
      have taken := takeOut_keeps (c := stale) kept left id false j
      exact startAnew_keeps (c := (stale.takeOut id false j).2) kept taken id

theorem clearDead_keeps (id : Text) (i : Instance) : P (c.clearDead id i).2.world.files :=
  takeOut_keeps (c := { c with world := c.world.warn _ }) kept holds id false i

theorem judge_keeps (id : Text) (i : Instance) : P (c.judge id i).2.world.files := by
  have checked : (i.checkHealth c.site.settings c.world).2.2.files = c.world.files := rfl
  unfold judge
  generalize i.checkHealth c.site.settings c.world = outcome at checked ⊢
  obtain ⟨healthy, j, w⟩ := outcome
  have left : P w.files := checked ▸ holds
  dsimp only
  split
  · exact Instance.transition_keeps kept _ j left
  · exact left

theorem presentStatus_keeps (id : Text) (i : Instance) :
    P (c.presentStatus id i).2.world.files := by
  have checked : (i.checkAlive c.world).2.2.files = c.world.files := rfl
  unfold presentStatus
  split
  · exact clearDead_keeps kept holds id i
  · generalize i.checkAlive c.world = outcome at checked ⊢
    obtain ⟨alive, j, w⟩ := outcome
    have left : P w.files := checked ▸ holds
    cases alive with
    | true => exact judge_keeps (c := { c with world := w }) kept left id j
    | false => exact clearDead_keeps (c := { c with world := w }) kept left id j

theorem status_keeps (id : Text) : P (c.status id).2.world.files := by
  unfold status
  split
  · exact holds
  · cases c.instance? id with
    | none => exact holds
    | some i => exact presentStatus_keeps kept holds id i

theorem uninstall_keeps (id : Text) : P (c.uninstall id).2.world.files := by
  have evicted := evict_keeps kept holds id
  have site : (c.evict id).2.site = c.site := by
    unfold evict
    cases c.instance? id <;> rfl
  have removed := kept.remove ((c.evict id).2.hasInstance ·) id evicted
  unfold uninstall
  rw [halt_eq]
  dsimp only
  rw [site]
  generalize Store.remove δ ((c.evict id).2.hasInstance ·) id (c.evict id).2.world.files
    c.site.registry = outcome at removed ⊢
  obtain ⟨answer, files⟩ := outcome
  cases answer <;> exact removed

omit kept [Document δ] in
theorem execute_keeps (id tool arguments : Text) :
    P (c.execute id tool arguments).2.world.files := by
  unfold execute
  split
  · exact holds
  · cases c.borrow id with
    | error f => exact holds
    | ok i =>
      have called : (c.callOn id tool arguments i).2.world.files = c.world.files := by
        unfold callOn
        split <;> rfl
      dsimp only
      generalize c.callOn id tool arguments i = outcome at called ⊢
      obtain ⟨answer, c'⟩ := outcome
      cases answer <;> exact called ▸ holds

omit kept [Document δ] [Kernel κ] in
theorem onInstance_keeps (id : Text) {act : Instance → World κ → Instance × World κ}
    (acted : ∀ i, P (act i c.world).2.files) : P (c.onInstance id act).world.files := by
  unfold onInstance
  cases c.instance? id with
  | none => exact holds
  | some i => exact acted i

/-- What the registry keeps true of the files stays true over a request. -/
theorem serve_keeps (r : Request) : P (c.serve r).2.world.files := by
  cases r with
  | adopt i => exact adopt_keeps kept holds i
  | launch d => exact launch_keeps kept holds d
  | start id => exact start_keeps kept holds id
  | stop id => exact evict_keeps kept holds id
  | status id => exact status_keeps kept holds id
  | update id p => exact kept.update (c.hasInstance ·) id p holds
  | uninstall id => exact uninstall_keeps kept holds id
  | borrow id => exact holds
  | execute id tool arguments => exact execute_keeps holds id tool arguments
  | tick id => exact onInstance_keeps holds id fun i => Instance.monitorStep_keeps kept i holds
  | attend id =>
    exact onInstance_keeps holds id fun i =>
      Instance.monitorRound_keeps (w := (i.readLines c.site c.world).2) kept _ holds

end Controller

end ProviderHost
