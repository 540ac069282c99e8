import ProviderHost.Proofs.Lifecycle.Launching
import ProviderHost.Proofs.Lifecycle.Stopping
import ProviderHost.Store.Roster

/-!
# Launches that fail

To the controller a launch that fails is nothing but a new record of its provider: the failure and
the output of the attempt. The record of a failure stands until the next launch of the provider,
whatever is started and stopped in between.
-/

namespace ProviderHost

namespace Controller

variable {δ κ : Type} [Document δ] [Kernel κ]

/-! ### What a launch records -/

def failureOf : Except Fault StartReport → Option Text
  | .ok _ => none
  | .error f => some f.message

theorem launch_of_error {d : Definition} {c : Controller δ κ} {cause : StartFault} {i : Instance}
    {w : World κ} (tried : Instance.attempt c.site d c.world = (.error cause, i, w)) :
    c.launch d = (.error cause.fault, { c with world := w }.setSlot d.id
      { c.slot d.id with past := some i.ring, failure := some cause.fault.message }) := by
  rw [launch, tried]

theorem failure_adopt (i : Instance) (id : Text) (c : Controller δ κ) :
    ((c.adopt i).slot id).failure = (c.slot id).failure := by
  unfold adopt
  rw [slot_setSlot]
  split
  · rename_i same
    rw [same]
  · rfl

/-- A launch records its own outcome and leaves what is recorded of others. -/
theorem failure_launch (d : Definition) (id : Text) (c : Controller δ κ) :
    ((c.launch d).2.slot id).failure =
      if d.id = id then failureOf (c.launch d).1 else (c.slot id).failure := by
  cases tried : Instance.attempt c.site d c.world with
  | mk answer rest =>
    obtain ⟨i, w⟩ := rest
    cases answer with
    | error cause =>
      rw [launch_of_error tried, slot_setSlot]
      split <;> rfl
    | ok note =>
      obtain ⟨same, -, -, -⟩ := Instance.attempt_started tried
      rw [launch, tried]
      dsimp only
      rw [slot_setSlot, same]
      split
      · rfl
      · exact failure_adopt (i.startMonitor c.site.settings w) id { c with world := w }

theorem failure_takeOut (id other : Text) (graceful : Bool) (i : Instance) (c : Controller δ κ) :
    ((c.takeOut id graceful i).2.slot other).failure = (c.slot other).failure := by
  obtain ⟨-, -, slots⟩ := c.takeOut_spec id graceful i
  rw [slots]
  split
  · rename_i same
    rw [← same]
    rfl
  · rfl

theorem failure_stop (id other : Text) (c : Controller δ κ) :
    ((c.stop id).slot other).failure = (c.slot other).failure := by
  unfold stop
  rw [halt_eq]
  cases present : c.instance? id with
  | none => rw [evict_of_none present]
  | some i =>
    obtain ⟨gone, -, -, -, slots⟩ := evict_of_some present
    rw [slots]
    split
    · rename_i same
      rw [← same]
      rfl
    · rfl

omit [Document δ] [Kernel κ] in
theorem failure_setInstance (id other : Text) (i : Instance) (c : Controller δ κ) :
    ((c.setInstance id i).slot other).failure = (c.slot other).failure := by
  unfold setInstance
  rw [slot_setSlot]
  split
  · rename_i same
    rw [same]
  · rfl

theorem failure_attend (id other : Text) (c : Controller δ κ) :
    ((c.attend id).slot other).failure = (c.slot other).failure := by
  unfold attend onInstance
  split
  · rfl
  · exact failure_setInstance id other _ _

theorem failure_elapse (duration : Nat) (other : Text) (c : Controller δ κ) :
    ((c.elapse duration).slot other).failure = (c.slot other).failure := by
  have attended (ids : List Text) (c : Controller δ κ) :
      ((ids.foldl (fun c id => c.attend id) c).slot other).failure = (c.slot other).failure := by
    induction ids generalizing c with
    | nil => rfl
    | cons id ids ih => exact (ih (c.attend id)).trans (failure_attend id other c)
  exact attended _
    { c with world := { c.world with kernel := Kernel.sleep duration c.world.kernel } }

/-! ### Runs -/

inductive Deed where
  | launch (d : Definition)
  | start (id : Text)
  | stop (id : Text)
  | elapse (duration : Nat)

def perform (c : Controller δ κ) : Deed → Controller δ κ
  | .launch d => (c.launch d).2
  | .start id => (c.start id).2
  | .stop id => c.stop id
  | .elapse duration => c.elapse duration

def run (c : Controller δ κ) (deeds : List Deed) : Controller δ κ := deeds.foldl perform c

/-- The controller in which a start goes on to a launch: nothing is left of an instance that is
not in use. -/
def cleared? (id : Text) (c : Controller δ κ) : Option (Controller δ κ) :=
  match c.instance? id with
  | none => some c
  | some i =>
    match i.checkLive c.site.settings c.world with
    | (true, _, _) => none
    | (false, i, w) =>
      let w := w.warn ("provider " ++ id ++ " has a stale instance, restarting")
      some ({ c with world := w }.remove id false i)

def launch? (c : Controller δ κ) : Deed → Option (Definition × Controller δ κ)
  | .launch d => some (d, c)
  | .start id => (c.cleared? id).bind fun c =>
    match Store.get δ id c.world.files c.site.registry with
    | .ok d => some (d, c)
    | .error _ => none
  | _ => none

def outcome? (c : Controller δ κ) (deed : Deed) : Option (Text × Option Text) :=
  (c.launch? deed).map fun p => (p.1.id, failureOf (p.2.launch p.1).1)

/-- The launches of a run: the provider of each, and what has failed. -/
def launches (c : Controller δ κ) : List Deed → List (Text × Option Text)
  | [] => []
  | deed :: deeds => (c.outcome? deed).toList ++ launches (c.perform deed) deeds

/-- The outcome of the latest launch of a provider. -/
def latest? (id : Text) (launches : List (Text × Option Text)) : Option (Option Text) :=
  (launches.filter (·.1 = id)).getLast?.map (·.2)

theorem latest?_append (id : Text) (first second : List (Text × Option Text)) :
    latest? id (first ++ second) = (latest? id second).or (latest? id first) := by
  unfold latest?
  rw [List.filter_append, List.getLast?_append]
  cases (second.filter (·.1 = id)).getLast? <;> rfl

theorem start_of_cleared {id : Text} {c c' : Controller δ κ} (cleared : c.cleared? id = some c') :
    c.start id = c'.startAnew id ∧ ∀ other, (c'.slot other).failure = (c.slot other).failure := by
  unfold cleared? at cleared
  unfold start
  cases present : c.instance? id with
  | none =>
    rw [present] at cleared
    cases cleared
    exact ⟨rfl, fun other => rfl⟩
  | some i =>
    rw [present] at cleared
    dsimp only at cleared ⊢
    generalize i.checkLive c.site.settings c.world = answer at cleared ⊢
    obtain ⟨live, i', w⟩ := answer
    cases live with
    | true => cases cleared
    | false =>
      cases cleared
      exact ⟨rfl, fun other => failure_takeOut id other false i' { c with world := _ }⟩

theorem failure_start_in_use {id : Text} {c : Controller δ κ} (used : c.cleared? id = none)
    (other : Text) : ((c.start id).2.slot other).failure = (c.slot other).failure := by
  unfold cleared? at used
  unfold start
  cases present : c.instance? id with
  | none =>
    rw [present] at used
    cases used
  | some i =>
    rw [present] at used
    dsimp only at used ⊢
    generalize i.checkLive c.site.settings c.world = answer at used ⊢
    obtain ⟨live, i', w⟩ := answer
    cases live with
    | true => exact failure_setInstance id other i' { c with world := _ }
    | false => cases used

theorem failure_launch_latest (d : Definition) (id : Text) (c : Controller δ κ) :
    ((c.launch d).2.slot id).failure =
      (latest? id [(d.id, failureOf (c.launch d).1)]).getD (c.slot id).failure := by
  rw [failure_launch]
  by_cases same : d.id = id <;> simp [latest?, same]

/-- A deed changes what is recorded of failures only by the launch that it leads to. -/
theorem failure_perform (deed : Deed) (id : Text) (c : Controller δ κ) :
    ((c.perform deed).slot id).failure =
      (latest? id (c.outcome? deed).toList).getD (c.slot id).failure := by
  cases deed with
  | launch d => exact failure_launch_latest d id c
  | stop other => exact failure_stop other id c
  | elapse duration => exact failure_elapse duration id c
  | start other =>
    cases cleared : c.cleared? other with
    | none =>
      rw [outcome?, launch?, cleared]
      exact failure_start_in_use cleared id
    | some c' =>
      obtain ⟨started, kept⟩ := start_of_cleared cleared
      rw [outcome?, launch?, cleared, perform, started, startAnew, Option.bind_some, ← kept id]
      cases Store.get δ other c'.world.files c'.site.registry with
      | error cause => rfl
      | ok d => exact failure_launch_latest d id c'

theorem failure_run (deeds : List Deed) (id : Text) (c : Controller δ κ) :
    ((c.run deeds).slot id).failure = (latest? id (c.launches deeds)).getD (c.slot id).failure := by
  induction deeds generalizing c with
  | nil => rfl
  | cons deed deeds ih =>
    have first := failure_perform deed id c
    -- A later launch outweighs the one of the first deed.
    rw [launches, latest?_append]
    refine (ih (c.perform deed)).trans ?_
    rw [first]
    cases latest? id (launches (c.perform deed) deeds) <;> rfl

/-! ### What a failed launch leaves -/

/-- A launch that fails, for whatever reason and in whatever system, leaves all instances as they
were, so that nobody can borrow the one that has failed. Its instance went over the stage of
starting to that of an error, and no process that was started for it is left to collect. What
changes is the record of its provider: the failure is the one that is answered, and the output is
that of the attempt. In a run, the failure that is recorded of a provider is that of its latest
launch, if that has failed; there is none if it was never launched. -/
theorem failed_launch_is_undone (c : Controller δ (Recorded κ)) (site : Site δ) (w : World κ) :
    (∀ d f, (c.launch d).1 = .error f →
      (∀ id, (c.launch d).2.instance? id = c.instance? id ∧
        (c.launch d).2.borrow id = c.borrow id) ∧
      (∀ id, id ≠ d.id → (c.launch d).2.slot id = c.slot id) ∧
      ((c.launch d).2.slot d.id).failure = some f.message ∧
      ∃ cause i w reports, Instance.attempt c.site d c.world = (.error cause, i, w) ∧
        f = cause.fault ∧ ((c.launch d).2.slot d.id).ring? = some i.ring ∧
        (∀ j, ({ c with world := { c.world with journal := j } }.launch d).2.world.journal =
          j.tell reports) ∧
        Instance.Undone d c.world.kernel reports i (c.launch d).2.world.kernel) ∧
    ∀ deeds id, let fresh : Controller δ κ := { site := site, world := w }
      ((fresh.run deeds).slot id).failure =
        (latest? id (fresh.launches deeds)).bind fun failure => failure := by
  refine ⟨fun d f failed => ?_, fun deeds id => ?_⟩
  · obtain ⟨answer, i, k', files', reports, attempted, undone⟩ :=
      Instance.attempt_undone c.site d c.world.kernel c.world.files
    have tried : Instance.attempt c.site d c.world =
      (answer, i, ⟨k', c.world.journal.tell reports, files'⟩) := attempted c.world.journal
    cases answer with
    | ok note =>
      rw [launch, tried] at failed
      cases failed
    | error cause =>
      have launched := launch_of_error tried
      rw [launched] at failed
      cases failed
      have slots (id : Text) := slot_setSlot d.id id
        { c.slot d.id with past := some i.ring, failure := some cause.fault.message }
        { c with world := ⟨k', c.world.journal.tell reports, files'⟩ }
      have instances (id : Text) : (c.launch d).2.instance? id = c.instance? id := by
        unfold instance?
        rw [launched, slots]
        split
        · rename_i same
          rw [← same]
        · rfl
      refine ⟨fun id => ⟨instances id, by rw [borrow, borrow, instances]⟩, fun id other => ?_, ?_,
        cause, i, _, reports, tried, rfl, ?_, fun j => ?_, ?_⟩
      · rw [launched, slots, if_neg other.symm]
        rfl
      · rw [launched, slots, if_pos rfl]
      · rw [launched, slots, if_pos rfl]
        rfl
      · rw [launch_of_error (c := { c with world := { c.world with journal := j } }) (attempted j)]
        rfl
      · rw [launched]
        exact undone cause rfl
  · intro fresh
    rw [failure_run]
    cases latest? id (fresh.launches deeds) <;> rfl

end Controller

/-- A system in which one process can be up at a time. Every signal ends it, unless it is
`deathless`: then no signal reaches it, and it takes no messages. -/
structure Lone where
  clock : Nat := 0
  up : Bool := false
  deathless : Bool := false

namespace Lone

def silence : Fault := { category := .transport, message := "no answer", code := "no_answer" }

def signalled (l : Lone) : Bool × Lone :=
  if l.deathless then (false, l) else (l.up, { l with up := false })

instance : Kernel Lone where
  now := clock
  sleep d l := { l with clock := l.clock + max d 1 }
  start _ _ _ l := (.ok ⟨7, none⟩, { l with up := true })
  poll _ l := (if l.up then .alive else .gone, l)
  ends _ l := !l.deathless
  reap _ l := { l with up := false }
  signalGroup _ _ := signalled
  signalProcess _ _ := signalled
  read _ _ l := ([], l)
  closeInput _ l := l
  closeOutputs _ l := l
  healthStatus _ _ _ l := (.error silence.message, l)
  greet _ _ l := (.error silence, l)
  listTools _ _ l := (.error silence, l)
  callTool _ _ _ _ l := (.error silence, l)
  dismiss _ _ l := (.error silence, l)
  now_le_poll _ _ := Nat.le_refl _
  now_lt_sleep d l := by
    show l.clock < l.clock + max d 1
    omega
  now_le_healthStatus _ _ _ _ := Nat.le_refl _

end Lone

namespace Controller

def toolbox : Files := { root := .directory [("tool", .program "sleep")] }

theorem find?_tool : SearchPath.find? toolbox none "/tool" = some (Text.ofString "/tool") := by
  have entered : toolbox.find true "/tool" =
    toolbox.walk true Files.maxLinks [] toolbox.root [[], "tool"] := rfl
  have found : toolbox.stat "/tool" = .ok (["tool"], .program "sleep") := by
    rw [Files.stat, entered, Files.walk]
    show (toolbox.walk true Files.maxLinks [] toolbox.root ["tool"]).bind _ = _
    rw [Files.walk]
    show (toolbox.walk true Files.maxLinks ["tool"] (.program "sleep") []).bind _ = _
    rw [Files.walk]
    rfl
  have runs : toolbox.isExecutable "/tool" = true := by rw [Files.isExecutable, found]
  show (if toolbox.isExecutable "/tool" then _ else _) = _
  rw [runs]
  rfl

/-- The process of a provider is up when the address of the provider turns out to be none. An
instance that was there before stays. -/
theorem launch_at_bad_url_is_undone :
    let older : Instance := { id := "tool", ring := .ofCapacity 5, stage := .running }
    let c : Controller Roster (Recorded Lone) :=
      { site := {}, world := ⟨⟨{}, []⟩, {}, toolbox⟩,
        slots := Table.empty.insert "tool" { live := some older } }
    let d : Definition := { id := "tool", command := "/tool", url := some "ftp://tool" }
    let cause : StartFault := .badUrl (.unsupportedScheme "ftp" "ftp://tool")
    (Child.spawn toolbox { executable := "/tool", args := [] } [] c.world.kernel).1 =
      .ok { pid := 7 } ∧
    (c.launch d).1 = .error cause.fault ∧
    (c.launch d).2.instance? "tool" = some older ∧
    ((c.launch d).2.slot "tool").failure = some cause.fault.message ∧
    ∃ i reports, Instance.Undone d c.world.kernel reports i (c.launch d).2.world.kernel := by
  intro older c d cause
  have resolved : Launch.resolve (SearchPath.find? toolbox none) c.site.settings.fallbacks
      d.command d.args = .ok { executable := "/tool", args := [] } := by
    rw [Launch.resolve, if_neg (by decide), find?_tool]
  have attempted : ∃ i w, Instance.attempt c.site d c.world = (.error cause, i, w) := by
    obtain ⟨i, j, begun⟩ : ∃ i j, (Instance.ofDefinition c.site.settings d).transition c.site
        .starting c.world = (i, { c.world with journal := j }) := ⟨_, _, rfl⟩
    unfold Instance.attempt Instance.establish Instance.connect Instance.launchProcess
    rw [begun]
    dsimp only
    rw [resolved]
    exact ⟨_, _, rfl⟩
  obtain ⟨i, w, tried⟩ := attempted
  have failed : (c.launch d).1 = .error cause.fault := congrArg Prod.fst (launch_of_error tried)
  obtain ⟨instances, -, failure, -, i, -, reports, -, -, -, -, undone⟩ :=
    (failed_launch_is_undone c {} (⟨{}, {}, {}⟩ : World Lone)).1 d _ failed
  exact ⟨rfl, failed, (instances "tool").1, failure, i, reports, undone⟩

end Controller

end ProviderHost
