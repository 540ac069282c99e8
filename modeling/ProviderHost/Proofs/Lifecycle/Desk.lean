import ProviderHost.Proofs.Lifecycle.Alone
import ProviderHost.Proofs.Lifecycle.Course
import ProviderHost.Proofs.Store.Refusal

/-!
# Taking turns for the lock of a provider

The lock of a provider is held for the whole of a start, a stop, an update and an uninstall.
`Threads.step` knows the first two; `Desk.step` adds the others, which ask the registry besides.
From the moment when an uninstall has ended the instance until it gives the lock back, there is no
instance of the provider, whatever the other threads do in between (`run_removing`).
-/

namespace ProviderHost

/-- What the lock of a provider is held for, other than a start or a stop. -/
inductive Duty where
  | none
  | stopping
  /-- The registry asks whether the provider that it is to remove is in use. -/
  | asking
  | erasing
  | forgetting
  /-- The registry asks whether it is to refuse an update. -/
  | reviewing (p : Patch)
  | changing (p : Patch)

namespace Duty

def isNone : Duty → Bool
  | none => true
  | _ => false

def isRemoval : Duty → Bool
  | stopping | asking | erasing | forgetting => true
  | none | reviewing _ | changing _ => false

theorem isNone_of_removal {duty : Duty} (removal : duty.isRemoval) : duty.isNone = false := by
  cases duty with
  | stopping | asking | erasing | forgetting => rfl
  | none | reviewing p | changing p => cases removal

end Duty

/-- The threads around a provider, and what its lock is held for. -/
structure Desk (κ : Type) where
  threads : Threads κ
  duty : Duty := .none

inductive DeskEvent (κ : Type) where
  | thread (e : ThreadEvent κ)
  | uninstall
  | update (p : Patch)
  | proceed

def DeskEvent.takesLock {κ : Type} : DeskEvent κ → Bool
  | .thread e => e.takesLock
  | .uninstall | .update _ => true
  | .proceed => false

namespace Desk

variable {δ κ : Type} [Document δ] [Kernel κ]

def IsFree (d : Desk κ) : Prop := d.duty.isNone ∧ d.threads.errand = .idle

instance (d : Desk κ) : Decidable d.IsFree := inferInstanceAs (Decidable (_ ∧ _))

def filed (files : Files) (next : Duty) (d : Desk κ) : Desk κ :=
  { threads := { d.threads with world := { d.threads.world with files := files } }, duty := next }

/-- An update or an uninstall gets on. It waits while an instance is ended. -/
def proceed (site : Site δ) (id : Text) (d : Desk κ) : Option (Desk κ) :=
  match d.duty with
  | .none => none
  | .stopping => if d.threads.errand = .idle then some { d with duty := .asking } else none
  | .asking => some { d with duty := if d.threads.listed.isSome then .none else .erasing }
  | .erasing =>
    match Store.remove δ (fun _ => false) id d.threads.world.files site.registry with
    | (.error _, files) => some (d.filed files .none)
    | (.ok (), files) => some (d.filed files .forgetting)
  | .forgetting => some { d with duty := .none }
  | .reviewing p =>
    match Store.refuseUpdate (fun _ => d.threads.listed.isSome) id p with
    | some _ => some { d with duty := .none }
    | none => some { d with duty := .changing p }
  | .changing p =>
    some (d.filed
      (Store.update δ (fun _ => false) id p d.threads.world.files site.registry).2 .none)

/-- One step; none if it cannot be taken now. Whoever wants the lock waits until it is free. -/
def step (site : Site δ) (id : Text) (d : Desk κ) (e : DeskEvent κ) : Option (Desk κ) :=
  if e.takesLock ∧ ¬ d.IsFree then none
  else
    match e with
    | .thread e => (d.threads.step site id e).map fun t => { d with threads := t }
    | .uninstall =>
      (d.threads.step site id .stop).map fun t => { threads := t, duty := .stopping }
    | .update p => some { d with duty := .reviewing p }
    | .proceed => d.proceed site id

/-- The desk after some events, all of which can happen when they do. -/
def run (site : Site δ) (id : Text) (d : Desk κ) (events : List (DeskEvent κ)) :
    Option (Desk κ) :=
  events.foldlM (fun d e => d.step site id e) d

variable {site : Site δ} {id : Text} {d x y z : Desk κ} {e : DeskEvent κ}
  {events : List (DeskEvent κ)}

@[simp] theorem step_proceed : d.step site id .proceed = d.proceed site id := by
  simp [step, DeskEvent.takesLock]

/-! ### What a step can be -/

inductive Moved (site : Site δ) (id : Text) (d : Desk κ) : DeskEvent κ → Desk κ → Prop where
  | thread {e : ThreadEvent κ} {t : Threads κ} (taken : d.threads.step site id e = some t)
    (free : e.takesLock → d.IsFree) : Moved site id d (.thread e) { d with threads := t }
  | begun {t : Threads κ} (taken : d.threads.step site id .stop = some t) (free : d.IsFree) :
    Moved site id d .uninstall { threads := t, duty := .stopping }
  | received (p : Patch) (free : d.IsFree) :
    Moved site id d (.update p) { d with duty := .reviewing p }
  | stopped (duty : d.duty = .stopping) (idle : d.threads.errand = .idle) :
    Moved site id d .proceed { d with duty := .asking }
  | asked (duty : d.duty = .asking) :
    Moved site id d .proceed { d with duty := if d.threads.listed.isSome then .none else .erasing }
  | erased (duty : d.duty = .erasing) (files : Files) :
    Moved site id d .proceed (d.filed files .forgetting)
  /-- The lock is given back, or an update goes on. -/
  | passed (files : Files) {next : Duty} (past : next.isRemoval = false) :
    Moved site id d .proceed (d.filed files next)

theorem proceed_cases (taken : d.proceed site id = some z) : Moved site id d .proceed z := by
  unfold proceed at taken
  cases duty : d.duty <;> simp only [duty] at taken
  case none => cases taken
  case stopping =>
    split at taken
    · rename_i idle
      cases taken
      exact .stopped duty idle
    · cases taken
  case asking =>
    cases taken
    exact .asked duty
  case erasing =>
    split at taken <;> cases taken
    · exact .passed _ rfl
    · exact .erased duty _
  case forgetting =>
    cases taken
    exact .passed d.threads.world.files rfl
  case reviewing p =>
    split at taken <;> cases taken <;> exact .passed d.threads.world.files rfl
  case changing p =>
    cases taken
    exact .passed _ rfl

theorem step_cases (taken : d.step site id e = some z) : Moved site id d e z := by
  unfold step at taken
  split at taken
  · cases taken
  · rename_i open'
    have free : e.takesLock → d.IsFree := fun takes => by
      by_cases free : d.IsFree
      · exact free
      · exact absurd ⟨takes, free⟩ open'
    cases e with
    | thread e =>
      obtain ⟨t, stepped, rfl⟩ := Option.map_eq_some_iff.mp taken
      exact .thread stepped free
    | uninstall =>
      obtain ⟨t, stepped, rfl⟩ := Option.map_eq_some_iff.mp taken
      exact .begun stepped (free rfl)
    | update p =>
      cases taken
      exact .received p (free rfl)
    | proceed => exact proceed_cases taken

theorem step_threads (taken : d.step site id e = some z) :
    z.threads = d.threads ∨ ∃ e, d.threads.step site id e = some z.threads := by
  cases step_cases taken with
  | thread stepped => exact .inr ⟨_, stepped⟩
  | begun stepped => exact .inr ⟨_, stepped⟩
  | received | stopped | asked => exact .inl rfl
  | erased _ files => exact .inr ⟨.outside { d.threads.world with files := files }, rfl⟩
  | passed files => exact .inr ⟨.outside { d.threads.world with files := files }, rfl⟩

theorem step_sound (sound : d.threads.Sound) (taken : d.step site id e = some z) :
    z.threads.Sound := by
  rcases step_threads taken with same | ⟨e, stepped⟩
  · rwa [same]
  · exact Threads.step_sound sound stepped

theorem step_stopped {n : Nat} (sound : d.threads.Sound) (taken : d.step site id e = some z)
    (stopped : d.threads.stage? n = some .stopped) : z.threads.stage? n = some .stopped := by
  rcases step_threads taken with same | ⟨e, stepped⟩
  · rwa [same]
  · exact Threads.step_stopped sound stepped stopped

theorem run_concat :
    d.run site id (events ++ [e]) = (d.run site id events).bind (·.step site id e) := by
  simp [run, List.foldlM_append, bind]

theorem run_sound (sound : d.threads.Sound) (ran : d.run site id events = some z) :
    z.threads.Sound := by
  induction events generalizing d with
  | nil =>
    cases ran
    exact sound
  | cons e events ih =>
    obtain ⟨between, taken, rest⟩ := Option.bind_eq_some_iff.mp ran
    exact ih (step_sound sound taken) rest

end Desk

/-! ### An uninstall that is underway -/

namespace EndStep

/-- Whether the instance is in the list until this step. -/
def isListed : EndStep → Bool
  | flagging | joining | unlisting => true
  | dismissing | disconnecting | killing | settling => false

end EndStep

namespace Threads

variable {δ κ : Type} [Document δ] [Kernel κ] {site : Site δ} {id : Text} {t t' : Threads κ}
  {e : ThreadEvent κ} {n : Nat}

/-- Without the lock nobody changes the list, or what the holder of the lock is at. -/
theorem step_unlocked (taken : t.step site id e = some t') (quiet : e.takesLock = false)
    (other : e ≠ .work) :
    t'.errand = t.errand ∧ t'.listed = t.listed ∧ t'.instances.length = t.instances.length := by
  cases step_cases taken with
  | outside | looked | borrowed => exact ⟨rfl, rfl, rfl⟩
  | traffic | monitor | released => exact ⟨rfl, rfl, length_put _⟩
  | taken event => rcases event with rfl | rfl <;> cases quiet
  | worked => exact absurd rfl other

structure Ends (n : Nat) (step : EndStep) (t : Threads κ) : Prop where
  errand : t.errand = .ending .stop n step
  listed : t.listed = if step.isListed then some n else none

structure HasEnded (was : Option Nat) (t : Threads κ) : Prop where
  idle : t.errand = .idle
  listed : t.listed = none
  stopped : ∀ n, was = some n → t.stage? n = some .stopped

/-- The work on an instance that is ended goes on to the next step, and after the last one the
instance is stopped. -/
theorem Ends.work {step : EndStep} (ends : t.Ends n step) (taken : t.step site id .work = some t') :
    t'.instances.length = t.instances.length ∧
      ((∃ next, t'.Ends n next) ∨ t'.HasEnded (some n)) := by
  obtain ⟨errand, listed⟩ := ends
  simp only [Threads.step, Threads.work, errand] at taken
  obtain ⟨i, present, ended⟩ := Option.bind_eq_some_iff.mp taken
  have bound := (List.getElem?_eq_some_iff.mp present).1
  unfold endStep at ended
  split at ended
  · cases ended
  · cases ended
    refine ⟨length_put _, ?_⟩
    cases step with
    | flagging => exact .inl ⟨.joining, rfl, by simpa [EndStep.isListed] using listed⟩
    | joining => exact .inl ⟨.unlisting, rfl, by simpa [EndStep.isListed] using listed⟩
    | unlisting =>
      have there : t.listed = some n := listed
      exact .inl ⟨.dismissing, rfl, by simp [EndStep.isListed, there]⟩
    | dismissing => exact .inl ⟨.disconnecting, rfl, by simpa [EndStep.isListed] using listed⟩
    | disconnecting => exact .inl ⟨.killing, rfl, by simpa [EndStep.isListed] using listed⟩
    | killing => exact .inl ⟨.settling, rfl, by simpa [EndStep.isListed] using listed⟩
    | settling =>
      refine .inr ⟨rfl, by simpa [EndStep.isListed] using listed, fun m was => ?_⟩
      cases was
      simp [stage?, put, bound, EndStep.act]

theorem work_of_idle (idle : t.errand = .idle) : t.step site id .work = none := by
  simp only [Threads.step, Threads.work, idle]

/-- A stop begins to end the instance that is listed, or has nothing to do. -/
theorem step_stop (taken : t.step site id .stop = some t') :
    t'.instances.length = t.instances.length ∧
      ((∃ n, t.listed = some n ∧ t'.Ends n .flagging) ∨ t'.HasEnded t.listed) := by
  simp only [Threads.step] at taken
  split at taken
  · rename_i idle
    split at taken
    · rename_i listed
      cases taken
      refine ⟨rfl, .inr ⟨idle, listed, fun n was => ?_⟩⟩
      cases listed.symm.trans was
    · rename_i n listed
      cases taken
      exact ⟨rfl, .inl ⟨n, listed, rfl, listed⟩⟩
  · cases taken

end Threads

namespace Desk

variable {δ κ : Type} [Document δ] [Kernel κ] {site : Site δ} {id : Text} {d x y z : Desk κ}
  {e : DeskEvent κ} {events : List (DeskEvent κ)}

/-- An uninstall that has begun at `x` is underway: the instance that was listed is being ended or
has ended, and no other one has come. -/
structure Underway (x z : Desk κ) : Prop where
  instances : z.threads.instances.length = x.threads.instances.length
  course : (z.duty = .stopping ∧ ∃ n step, x.threads.listed = some n ∧ z.threads.Ends n step) ∨
    z.threads.HasEnded x.threads.listed

theorem underway_of_begun (taken : x.step site id .uninstall = some z) : Underway x z := by
  cases step_cases taken with
  | begun stopped =>
    obtain ⟨length, ⟨n, was, ends⟩ | ended⟩ := Threads.step_stop stopped
    · exact ⟨length, .inl ⟨rfl, n, .flagging, was, ends⟩⟩
    · exact ⟨length, .inr ended⟩

theorem Underway.thread {event : ThreadEvent κ} {t : Threads κ} (underway : Underway x y)
    (sound : y.threads.Sound) (quiet : event.takesLock = false)
    (taken : y.threads.step site id event = some t) : Underway x { y with threads := t } := by
  obtain ⟨instances, course⟩ := underway
  -- The holder of the lock goes on with ending the instance, and the others do not touch the list.
  by_cases working : event = .work
  · subst working
    rcases course with ⟨duty, n, step, was, ends⟩ | ended
    · obtain ⟨length, ⟨next, ends⟩ | ended⟩ := ends.work taken
      · exact ⟨length.trans instances, .inl ⟨duty, n, next, was, ends⟩⟩
      · exact ⟨length.trans instances, .inr (was ▸ ended)⟩
    · cases (Threads.work_of_idle ended.idle).symm.trans taken
  · obtain ⟨errand, listed, length⟩ := Threads.step_unlocked taken quiet working
    refine ⟨length.trans instances, course.imp ?_ fun ended => ?_⟩
    · rintro ⟨duty, n, step, was, ends⟩
      exact ⟨duty, n, step, was, errand.trans ends.errand, listed.trans ends.listed⟩
    · exact ⟨errand.trans ended.idle, listed.trans ended.listed, fun n was =>
        Threads.step_stopped sound taken (ended.stopped n was)⟩

omit [Kernel κ] in
theorem Underway.idle (underway : Underway x y) (idle : y.threads.errand = .idle) :
    y.threads.HasEnded x.threads.listed := by
  obtain ⟨-, ⟨-, n, step, -, ends⟩ | ended⟩ := underway
  · cases idle.symm.trans ends.errand
  · exact ended

omit [Kernel κ] in
theorem Underway.past (underway : Underway x y) (past : y.duty ≠ .stopping) :
    y.threads.HasEnded x.threads.listed :=
  underway.course.resolve_left fun stopping => past stopping.1

/-- An uninstall stays underway until it gives the lock back. -/
theorem step_underway (underway : Underway x y) (sound : y.threads.Sound)
    (quiet : e.takesLock = false) (taken : y.step site id e = some z)
    (removing : z.duty.isRemoval) : Underway x z := by
  have instances := underway.instances
  cases step_cases taken with
  | thread stepped => exact underway.thread sound quiet stepped
  | begun | received => cases quiet
  | stopped duty idle => exact ⟨instances, .inr (underway.idle idle)⟩
  | asked duty => exact ⟨instances, .inr (underway.past (by rw [duty]; nofun))⟩
  | erased duty files =>
    obtain ⟨idle, listed, stopped⟩ := underway.past (by rw [duty]; nofun)
    exact ⟨instances, .inr ⟨idle, listed, stopped⟩⟩
  | passed files past =>
    rw [filed, past] at removing
    cases removing

/-- An uninstall is only underway after it has begun, and nobody else takes the lock then. -/
theorem step_removing (taken : y.step site id e = some z) (removing : z.duty.isRemoval) :
    (e = .uninstall ∧ y.IsFree) ∨ (e.takesLock = false ∧ y.duty.isRemoval) := by
  cases step_cases taken with
  | @thread event t stepped free =>
    cases quiet : event.takesLock with
    | false => exact .inr ⟨quiet, removing⟩
    | true =>
      cases (Duty.isNone_of_removal removing).symm.trans (free quiet).1
  | begun stepped free => exact .inl ⟨rfl, free⟩
  | received => cases removing
  | stopped duty | asked duty | erased duty => exact .inr ⟨rfl, by rw [duty]; rfl⟩
  | passed files past =>
    rw [filed, past] at removing
    cases removing

/-- In every run, an uninstall that is underway has taken the lock while it was free, nobody else
has taken it since, and the instance that was listed then is being ended or has ended. -/
theorem run_removing (nobody : d.duty.isNone) (sound : d.threads.Sound)
    (ran : d.run site id events = some z) (removing : z.duty.isRemoval) :
    ∃ before after x, events = before ++ .uninstall :: after ∧
      (∀ e ∈ after, e.takesLock = false) ∧ d.run site id before = some x ∧ x.IsFree ∧
      Underway x z := by
  -- The last step of the run has begun the uninstall, or found it underway.
  induction events using List.reverseRecOn generalizing z with
  | nil =>
    cases ran
    cases (Duty.isNone_of_removal removing).symm.trans nobody
  | append_singleton events e ih =>
    rw [run_concat] at ran
    obtain ⟨y, first, taken⟩ := Option.bind_eq_some_iff.mp ran
    rcases step_removing taken removing with ⟨rfl, free⟩ | ⟨quiet, going⟩
    · exact ⟨events, [], y, rfl, by simp, first, free, underway_of_begun taken⟩
    · obtain ⟨before, after, x, rfl, alone, start, free, underway⟩ := ih first going
      refine ⟨before, after ++ [e], x, by simp, ?_, start, free,
        step_underway underway (run_sound sound first) quiet taken removing⟩
      intro e' member
      rcases List.mem_append.mp member with earlier | last
      · exact alone e' earlier
      · rwa [List.mem_singleton.mp last]

/-! ### What is reached with nobody else at work -/

/-- Whether the desk gets from one state to another while nobody takes the lock. -/
abbrev Reaches (site : Site δ) (id : Text) : Desk κ → Desk κ → Prop :=
  Passage (fun d e => d.step site id e) DeskEvent.takesLock

/-- Whether taking the lock leads from one state to another, when nobody else takes it. -/
def Serves (site : Site δ) (id : Text) (e : DeskEvent κ) (d d' : Desk κ) : Prop :=
  ∃ begun, d.step site id e = some begun ∧ Reaches site id begun d'

theorem Reaches.proceed (taken : d.proceed site id = some x) : Reaches site id d x :=
  .of_step (e := .proceed) (step_proceed.trans taken) rfl

/-- What the threads do without taking the lock, they do at the desk. -/
theorem reaches_of_threads {t t' : Threads κ} (duty : Duty)
    (reaches : Threads.Reaches site id t t') : Reaches site id ⟨t, duty⟩ ⟨t', duty⟩ := by
  obtain ⟨events, quiet, ran⟩ := reaches
  refine ⟨events.map .thread, List.forall_mem_map.mpr quiet, ?_⟩
  induction events generalizing t with
  | nil =>
    cases ran
    rfl
  | cons e events ih =>
    obtain ⟨between, taken, rest⟩ := Option.bind_eq_some_iff.mp ran
    obtain ⟨quiet, later⟩ := List.forall_mem_cons.mp quiet
    have stepped : Desk.step site id ⟨t, duty⟩ (.thread e) = some ⟨between, duty⟩ := by
      simp [Desk.step, DeskEvent.takesLock, quiet, taken]
    simp only [List.map_cons, List.foldlM_cons, stepped]
    exact ih later rest

variable {c : Controller δ κ}

omit [Document δ] [Kernel κ] in
theorem isSome_listed {t : Threads κ} (portrays : Threads.Portrays id c t) :
    t.listed.isSome = c.hasInstance id := by
  rw [Controller.hasInstance, ← portrays.live, Threads.live?]
  cases listed : t.listed with
  | none => rfl
  | some n => simp [portrays.bound n listed]

omit [Document δ] [Kernel κ] in
theorem portrays_filed (files : Files) {duty next : Duty} {t : Threads κ}
    (portrays : Threads.Portrays id c t) :
    Threads.Portrays id { c with world := { c.world with files := files } }
      (filed files next ⟨t, duty⟩).threads where
  idle := portrays.idle
  world := by rw [filed, portrays.world]
  live := portrays.live
  bound := portrays.bound

omit [Kernel κ] in
theorem update_of_allowed {inUse : Text → Bool} {p : Patch}
    (allowed : Store.refuseUpdate inUse id p = none) (files : Files) (path : Text) :
    Store.update δ inUse id p files path = Store.update δ (fun _ => false) id p files path := by
  have free : Store.refuseUpdate (fun _ => false) id p = none := by
    unfold Store.refuseUpdate at allowed ⊢
    split at allowed <;> simp_all
  unfold Store.update
  rw [allowed, free]

/-- An update of the controller is a run at the desk in which nobody else takes the lock. -/
theorem update_reaches (p : Patch) (nobody : d.duty = .none)
    (portrays : Threads.Portrays id c d.threads) :
    ∃ d', Serves c.site id (.update p) d d' ∧ d'.duty = .none ∧
      Threads.Portrays id (c.update id p).2 d'.threads := by
  obtain ⟨t, duty⟩ := d
  subst nobody
  have world : t.world = c.world := portrays.world
  have free : IsFree ⟨t, .none⟩ := ⟨rfl, portrays.idle⟩
  have begins : step c.site id ⟨t, .none⟩ (.update p) = some ⟨t, .reviewing p⟩ := by
    simp [step, DeskEvent.takesLock, free]
  have asked : Store.refuseUpdate (fun _ => t.listed.isSome) id p =
      Store.refuseUpdate (c.hasInstance ·) id p := by
    simp only [Store.refuseUpdate, isSome_listed portrays]
  cases refused : Store.refuseUpdate (c.hasInstance ·) id p with
  | some cause =>
    have last : proceed c.site id ⟨t, .reviewing p⟩ = some ⟨t, .none⟩ := by
      simp only [proceed, asked, refused]
    have unchanged : (c.update id p).2 = c := by
      simp only [Controller.update, Store.update, refused]
    refine ⟨_, ⟨_, begins, .proceed last⟩, rfl, ?_⟩
    rwa [unchanged]
  | none =>
    have first : proceed c.site id ⟨t, .reviewing p⟩ = some ⟨t, .changing p⟩ := by
      simp only [proceed, asked, refused]
    let outcome := Store.update δ (fun _ => false) id p c.world.files c.site.registry
    have last : proceed c.site id ⟨t, .changing p⟩ =
        some (filed outcome.2 .none ⟨t, .changing p⟩) := by
      simp only [proceed, world, outcome]
    refine ⟨_, ⟨_, begins, (Reaches.proceed first).trans (Reaches.proceed last)⟩, rfl, ?_⟩
    rw [Controller.update, update_of_allowed refused]
    exact portrays_filed outcome.2 portrays

end Desk

end ProviderHost
