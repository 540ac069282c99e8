import ProviderHost.Proofs.Child.Dealing

/-!
# The processes that are still to be collected

A process that was started has to be collected at its end. `uncollected` reads off a record which
processes were not, and a handle accounts for exactly one of them until it knows that its process
is gone.
-/

namespace ProviderHost

/-- The processes to collect after a call, when `left` were to collect before it. -/
def ProcessCall.leave (left : List Nat) : ProcessCall → List Nat
  | .start (.ok started) => started.pid :: left
  | .poll pid answer => if answer = .alive then left else left.erase pid
  | .reap pid => left.erase pid
  | _ => left

def uncollected (left : List Nat) (entries : List ProcessEntry) : List Nat :=
  entries.foldl (fun left e => e.call.leave left) left

theorem uncollected_append (left : List Nat) (first second : List ProcessEntry) :
    uncollected left (first ++ second) = uncollected (uncollected left first) second :=
  List.foldl_append

namespace Child

variable {κ : Type} [Kernel κ]

/-- The processes to collect when this handle is held besides others. -/
def account (c : Child) (others : List Nat) : List Nat :=
  if c.reaped then others else c.pid :: others

theorem account_of_reaped {c : Child} (gone : c.reaped) (others : List Nat) :
    c.account others = others := if_pos gone

theorem account_of_held {c : Child} (held : c.reaped = false) (others : List Nat) :
    c.account others = c.pid :: others := by
  simp [account, held]

theorem Attempt.uncollected {s : Signal} {c : Child} {began : Nat} {calls : List ProcessEntry}
    {taken : Bool} (attempt : Attempt s c began calls taken) (left : List Nat) :
    uncollected left calls = left := by
  obtain ⟨held, done, sending⟩ := attempt
  cases sending <;> rfl

theorem Deal.uncollected {c c' : Child} {calls : List ProcessEntry} (deal : Deal c calls c')
    (others : List Nat) : uncollected (c.account others) calls = c'.account others := by
  cases deal with
  | look looked =>
    obtain ⟨held, answer, began, done⟩ := looked
    rw [account_of_held held]
    by_cases running : answer = .alive
    · subst running
      exact (account_of_held held others).symm
    · rw [account_of_reaped (by simpa [reaped_after held] using running)]
      simp [ProviderHost.uncollected, ProcessCall.leave, running]
  | signal attempt => exact attempt.uncollected _
  | collect attempt =>
    rw [uncollected_append, attempt.uncollected, account_of_held attempt.held]
    exact List.erase_cons_head c.pid others

theorem Course.uncollected {c c' : Child} {calls : List ProcessEntry}
    (course : Course Deal c calls c') (others : List Nat) :
    uncollected (c.account others) calls = c'.account others := by
  induction course with
  | nil c => rfl
  | cons deal _ ih => rw [uncollected_append, deal.uncollected, ih]

theorem Released.reaped {c c' : Child} {r r' : Recorded κ} (released : Released c r c' r') :
    c'.reaped := by
  cases released with
  | known gone | found held gone => exact gone
  | collected => rfl

/-- A process that was started but could not run its program is collected at once. -/
theorem spawn_uncollected (files : Files) (launch : Launch) (env : List Text) (r : Recorded κ) :
    ∃ calls, r.Extends calls (spawn files launch env r).2 ∧
      ∀ others, uncollected others calls =
        match (spawn files launch env r).1 with
        | .ok c => c.account others
        | .error _ => others := by
  have started : r.Extends [⟨.start (Kernel.start files launch env r).1, Kernel.now r,
    Kernel.now (Kernel.start files launch env r).2⟩] (Kernel.start files launch env r).2 := rfl
  unfold spawn
  generalize Kernel.start files launch env r = made at started ⊢
  obtain ⟨answer, r₁⟩ := made
  cases answer with
  | error cause => exact ⟨_, started, fun others => rfl⟩
  | ok process =>
    obtain ⟨pid, fault⟩ := process
    cases fault with
    | none => exact ⟨_, started, fun others => rfl⟩
    | some cause =>
      -- The child cannot become the program. It ends in time, or is killed with its handle.
      have waited := waitForExit_waited failedLaunchWait { pid := pid } r₁
      dsimp only
      generalize waitForExit failedLaunchWait { pid := pid } r₁ = waiting at waited ⊢
      obtain ⟨ended, c₁, r₂⟩ := waiting
      have released := c₁.release_released r₂
      dsimp only
      generalize c₁.release r₂ = left at released ⊢
      obtain ⟨c₂, r₃⟩ := left
      obtain ⟨calls, noted, course⟩ := waited.led.deals.trans released.led
      refine ⟨_, started.trans noted, fun others => ?_⟩
      rw [uncollected_append]
      exact (course.uncollected others).trans (account_of_reaped released.reaped others)

end Child

end ProviderHost
