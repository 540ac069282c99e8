import ProviderHost.Proofs.Child.Embedding

/-!
# Process groups

A child leads a group of processes, and what it starts joins the group. The host signals the group
but looks at its leader alone. `Grouped` says what is relied on of a system that keeps groups:
nobody is left in a group that takes no signal or was killed, and a group in which nobody is left
stays empty. `Clears` follows this through a record.
-/

namespace ProviderHost

/-- A system that keeps groups of processes. -/
class Grouped (κ : Type) [Kernel κ] where
  /-- The processes of a group that have anything left to do. -/
  members : Nat → κ → List Nat
  untaken : ∀ {g s k}, (Kernel.signalGroup g s k).1 = false →
    members g (Kernel.signalGroup g s k).2 = []
  killed : ∀ {g k}, (Kernel.signalGroup g .kill k).1 →
    members g (Kernel.signalGroup g .kill k).2 = []
  empty_step : ∀ {g k k'}, Kernel.Step k k' → members g k = [] → members g k' = []

namespace Grouped

variable {κ : Type} [Kernel κ] [Grouped κ]

/-- Nobody is left in a group. -/
def IsEmpty (g : Nat) (k : κ) : Prop := members g k = []

/-- Whenever the leader of a group is found gone, nobody is left in the group. -/
def FollowsLeader (κ : Type) [Kernel κ] [Grouped κ] (g : Nat) : Prop :=
  ∀ k : κ, (Kernel.poll g k).1 ≠ .alive → IsEmpty g (Kernel.poll g k).2

theorem isEmpty_of_kill (g : Nat) (k : κ) : IsEmpty g (Kernel.signalGroup g .kill k).2 := by
  cases taken : (Kernel.signalGroup g .kill k).1 with
  | true => exact killed taken
  | false => exact untaken taken

end Grouped

/-- A system whose processes are all in one group and end together: when they are killed, and also
when they are asked to end, unless they ignore it. -/
structure Band where
  clock : Nat := 0
  pids : List Nat
  heedless : Bool := false

namespace Band

/-- What a signal leaves of a band. -/
def after (s : Signal) (b : Band) : Band :=
  if s = .term ∧ b.heedless then b else { b with pids := [] }

def silence : Fault := { category := .transport, message := "no answer", code := "no_answer" }

instance : Kernel Band where
  now := clock
  sleep d b := { b with clock := b.clock + max d 1 }
  start _ _ _ b := (.error (.noPipes "no room"), b)
  poll _ b := (if b.pids = [] then .gone else .alive, b)
  ends _ _ := true
  reap _ b := { b with pids := [] }
  signalGroup _ s b := (b.pids ≠ [], b.after s)
  signalProcess _ s b := (b.pids ≠ [], b.after s)
  read _ _ b := ([], b)
  closeInput _ b := b
  closeOutputs _ b := b
  healthStatus _ _ _ b := (.error silence.message, b)
  greet _ _ b := (.error silence, b)
  listTools _ _ b := (.error silence, b)
  callTool _ _ _ _ b := (.error silence, b)
  dismiss _ _ b := (.error silence, b)
  now_le_poll _ _ := Nat.le_refl _
  now_lt_sleep d b := by
    show b.clock < b.clock + max d 1
    omega
  now_le_healthStatus _ _ _ _ := Nat.le_refl _

theorem pids_after {s : Signal} {b : Band} (empty : b.pids = []) : (b.after s).pids = [] := by
  unfold after
  split
  · exact empty
  · rfl

instance : Grouped Band where
  members _ b := b.pids
  untaken refused := pids_after (by simpa [Kernel.signalGroup] using refused)
  killed _ := rfl
  empty_step step empty := by
    cases step with
    | reap => rfl
    | signalGroup | signalProcess => exact pids_after empty
    | _ => exact empty

theorem followsLeader (g : Nat) : Grouped.FollowsLeader Band g := fun b gone => by
  simpa [Kernel.poll, Grouped.IsEmpty, Grouped.members] using gone

end Band

open Grouped (IsEmpty FollowsLeader)

/-- Whether nobody is left in a group after a call: it was killed or, if it follows its leader, the
leader was found gone. -/
def ProcessCall.Clears (κ : Type) [Kernel κ] [Grouped κ] (g : Nat) : ProcessCall → Prop
  | .signalGroup pid s _ => pid = g ∧ s = .kill
  | .poll pid answer => FollowsLeader κ g ∧ pid = g ∧ answer ≠ .alive
  | _ => False

namespace Recorded

variable {κ : Type} [Kernel κ] [Grouped κ] {g : Nat} {r r' r'' : Recorded κ}

/-- Unless something was started in between, nobody is left in a group that was empty before or
was cleared by a call. -/
def Clears (g : Nat) (r r' : Recorded κ) : Prop :=
  ∃ calls, r.Extends calls r' ∧ ((∀ e ∈ calls, e.call.target? ≠ none) →
    (IsEmpty g r.kernel ∨ ∃ e ∈ calls, e.call.Clears κ g) → IsEmpty g r'.kernel)

theorem Clears.trans (first : Clears g r r') (second : Clears g r' r'') : Clears g r r'' := by
  obtain ⟨calls, noted, left⟩ := first
  obtain ⟨more, noted', left'⟩ := second
  refine ⟨calls ++ more, noted.trans noted', fun known empty => ?_⟩
  have known' := List.forall_mem_append.mp known
  refine left' known'.2 ?_
  rcases empty with empty | ⟨e, member, cleared⟩
  · exact .inl (left known'.1 (.inl empty))
  · rcases List.mem_append.mp member with member | member
    · exact .inl (left known'.1 (.inr ⟨e, member, cleared⟩))
    · exact .inr ⟨e, member, cleared⟩

theorem Clears.silent (entries : r'.entries = r.entries) (step : Kernel.Step r.kernel r'.kernel) :
    Clears g r r' :=
  ⟨[], entries.trans (List.append_nil _).symm, fun _ empty =>
    empty.elim (Grouped.empty_step step) fun ⟨_, member, _⟩ => nomatch member⟩

theorem Clears.noted {call : ProcessCall} {k : κ} (step : Kernel.Step r.kernel k)
    (sound : call.Clears κ g → IsEmpty g k) : Clears g r (r.note call k) := by
  refine ⟨_, rfl, fun _ empty => ?_⟩
  rcases empty with empty | ⟨e, member, cleared⟩
  · exact Grouped.empty_step step empty
  · obtain rfl := List.mem_singleton.mp member
    exact sound cleared

theorem clears_kept (g : Nat) : Kernel.Kept (Clears (κ := κ) g) where
  refl r := ⟨[], .refl r, fun _ empty => empty.elim (fun empty => empty) nofun⟩
  trans := .trans
  start files launch env r := by
    refine ⟨_, rfl, fun known => ?_⟩
    exact absurd rfl (known _ List.mem_cons_self)
  step {r r'} step := by
    cases step with
    | sleep d => exact .silent rfl (.sleep d r.kernel)
    | read pid s => exact .silent rfl (.read pid s r.kernel)
    | closeInput pid => exact .silent rfl (.closeInput pid r.kernel)
    | closeOutputs pid => exact .silent rfl (.closeOutputs pid r.kernel)
    | healthStatus u path t => exact .silent rfl (.healthStatus u path t r.kernel)
    | greet peer t => exact .silent rfl (.greet peer t r.kernel)
    | listTools peer t => exact .silent rfl (.listTools peer t r.kernel)
    | callTool peer tool arguments t =>
      exact .silent rfl (.callTool peer tool arguments t r.kernel)
    | dismiss peer t => exact .silent rfl (.dismiss peer t r.kernel)
    | reap pid => exact .noted (.reap pid r.kernel) nofun
    | signalProcess pid s => exact .noted (.signalProcess pid s r.kernel) nofun
    | poll pid =>
      refine .noted (.poll pid r.kernel) ?_
      rintro ⟨follows, rfl, gone⟩
      exact follows r.kernel gone
    | signalGroup pid s =>
      refine .noted (.signalGroup pid s r.kernel) ?_
      rintro ⟨rfl, rfl⟩
      exact Grouped.isEmpty_of_kill pid r.kernel

end Recorded

/-! ### What the host does with a leader -/

namespace Child

theorem Deal.targets {c c' : Child} {calls : List ProcessEntry} (deal : Deal c calls c') :
    ∀ e ∈ calls, e.call.target? = some c.pid := by
  have attempted {s : Signal} {began : Nat} {calls : List ProcessEntry} {taken : Bool}
      (attempt : Attempt s c began calls taken) : ∀ e ∈ calls, e.call.target? = some c.pid := by
    obtain ⟨held, done, sending⟩ := attempt
    cases sending <;> simp [ProcessCall.target?]
  cases deal with
  | look looked =>
    obtain ⟨held, answer, began, done⟩ := looked
    simp [ProcessCall.target?]
  | signal attempt => exact attempted attempt
  | collect attempt began' done' =>
    exact List.forall_mem_append.mpr ⟨attempted attempt, by simp [ProcessCall.target?]⟩

theorem Course.targets {c c' : Child} {calls : List ProcessEntry}
    (course : Course Deal c calls c') : ∀ e ∈ calls, e.call.target? = some c.pid := by
  induction course with
  | nil c => simp
  | cons deal _ ih =>
    refine List.forall_mem_append.mpr ⟨deal.targets, ?_⟩
    rw [← deal.pid]
    exact ih

/-- Whether a call has found a process gone. -/
def FoundGone (pid : Nat) (calls : List ProcessEntry) : Prop :=
  ∃ e ∈ calls, ∃ answer, e.call = .poll pid answer ∧ answer ≠ .alive

/-- Whether a kill was sent to a group. -/
def KillTried (g : Nat) (calls : List ProcessEntry) : Prop :=
  ∃ e ∈ calls, ∃ taken, e.call = .signalGroup g .kill taken

theorem FoundGone.append {pid : Nat} {first second : List ProcessEntry} :
    FoundGone pid (first ++ second) ↔ FoundGone pid first ∨ FoundGone pid second := by
  simp [FoundGone, or_and_right, exists_or]

theorem KillTried.append {pid : Nat} {first second : List ProcessEntry} :
    KillTried pid (first ++ second) ↔ KillTried pid first ∨ KillTried pid second := by
  simp [KillTried, or_and_right, exists_or]

/-- A child gets known to be gone only when a call has found it gone, or when it was killed. -/
theorem Deal.gone {c c' : Child} {calls : List ProcessEntry} (deal : Deal c calls c')
    (held : c.reaped = false) (gone : c'.reaped) :
    FoundGone c.pid calls ∨ KillTried c.pid calls := by
  cases deal with
  | look looked =>
    obtain ⟨-, answer, began, done⟩ := looked
    rw [reaped_after held] at gone
    exact .inl ⟨_, List.mem_cons_self, answer, rfl, by simpa using gone⟩
  | signal => cases held.symm.trans gone
  | collect attempt =>
    refine .inr (KillTried.append.mpr (.inl ?_))
    obtain ⟨-, done, sending⟩ := attempt
    cases sending <;> simp [KillTried]

theorem Course.gone {c c' : Child} {calls : List ProcessEntry} (course : Course Deal c calls c')
    (held : c.reaped = false) (gone : c'.reaped) :
    FoundGone c.pid calls ∨ KillTried c.pid calls := by
  induction course with
  | nil c => cases held.symm.trans gone
  | @cons c c' c'' first rest deal _ ih =>
    rw [FoundGone.append, KillTried.append]
    cases still : c'.reaped with
    | true => exact (deal.gone held still).imp .inl .inl
    | false =>
      rw [← deal.pid]
      exact (ih still gone).imp .inr .inr

theorem Course.of_reaped {c c' : Child} {calls : List ProcessEntry}
    (course : Course Deal c calls c')
    (gone : c.reaped) : calls = [] := by
  induction course with
  | nil c => rfl
  | cons deal _ ih =>
    cases deal with
    | look looked =>
      obtain ⟨held, answer, began, done⟩ := looked
      cases held.symm.trans gone
    | signal attempt | collect attempt => cases attempt.held.symm.trans gone

variable {κ : Type} [Kernel κ] [Grouped κ]

theorem signal_refused {c : Child} {s : Signal} {k : κ} (refused : (c.signal s k).1 = false) :
    IsEmpty c.pid (c.signal s k).2 := by
  unfold signal at refused ⊢
  have untaken := Grouped.untaken (g := c.pid) (s := s) (k := k)
  generalize Kernel.signalGroup c.pid s k = sent at refused untaken ⊢
  obtain ⟨taken, k'⟩ := sent
  cases taken with
  | true => cases refused
  | false => exact Grouped.empty_step (.signalProcess c.pid s k') (untaken rfl)

/-- A request to end that is refused has found the child gone, or nobody in its group. -/
theorem terminate_refused {c : Child} {k : κ} (refused : (c.terminate k).1 = false) :
    c.reaped ∨ (Kernel.poll c.pid k).1 ≠ .alive ∨ IsEmpty c.pid (c.terminate k).2.2 := by
  cases held : c.reaped with
  | true => exact .inl rfl
  | false =>
    by_cases alive : (Kernel.poll c.pid k).1 = .alive
    · refine .inr (.inr ?_)
      unfold terminate signalIfRunning at refused ⊢
      rw [isRunning_of_held held, alive, decide_eq_true rfl] at refused ⊢
      exact signal_refused refused
    · exact .inr (.inl alive)

end Child

end ProviderHost
