import ProviderHost.Proofs.Child.Dealing
import ProviderHost.System

/-!
# The end of a child is final

A handle knows exactly what its record says: that the child is gone, once a call has said so, and
the exit code, if one of its own calls has collected it. From then on it makes no call at all, so
a number that was given to another process is never signalled.
-/

namespace ProviderHost.Child

variable {κ : Type} [Kernel κ]

/-! ### What a record says -/

/-- Whether one of the calls has found the process gone. -/
def endSeen (pid : Nat) (entries : List ProcessEntry) : Bool := entries.any (·.call.ends pid)

/-- The exit code that the calls have collected. -/
def codeSeen? (pid : Nat) (entries : List ProcessEntry) : Option Nat :=
  entries.findSome? (·.call.collects? pid)

@[simp] theorem endSeen_nil (pid : Nat) : endSeen pid [] = false := rfl

@[simp] theorem endSeen_cons (pid : Nat) (e : ProcessEntry) (entries : List ProcessEntry) :
    endSeen pid (e :: entries) = (e.call.ends pid || endSeen pid entries) := rfl

@[simp] theorem endSeen_append (pid : Nat) (first second : List ProcessEntry) :
    endSeen pid (first ++ second) = (endSeen pid first || endSeen pid second) := List.any_append

theorem codeSeen?_append (pid : Nat) (first second : List ProcessEntry) :
    codeSeen? pid (first ++ second) = (codeSeen? pid first).or (codeSeen? pid second) :=
  List.findSome?_append

theorem codeSeen?_of_not_endSeen {pid : Nat} {entries : List ProcessEntry}
    (open' : endSeen pid entries = false) : codeSeen? pid entries = none := by
  refine List.findSome?_eq_none_iff.mpr fun e member => ?_
  cases collected : e.call.collects? pid with
  | none => rfl
  | some code =>
    have ended := List.any_eq_false.mp open' e member
    exact absurd (ProcessCall.ends_of_collects? collected) ended

theorem codeSeen?_eq_some {pid code : Nat} {entries : List ProcessEntry}
    (seen : codeSeen? pid entries = some code) :
    ∃ e ∈ entries, e.call = .poll pid (.dead (.exited code)) ∨
      ∃ signal, e.call = .poll pid (.dead (.signalled signal)) ∧ code = 128 + signal := by
  obtain ⟨e, member, collected⟩ := List.exists_of_findSome?_eq_some seen
  refine ⟨e, member, ?_⟩
  unfold ProcessCall.collects? at collected
  split at collected
  · rename_i p status call
    split at collected
    · rename_i same
      subst same
      cases status with
      | exited n => exact .inl (by simpa [ExitStatus.code, call] using collected)
      | signalled n => exact .inr ⟨n, call, (Option.some.inj collected).symm⟩
    · cases collected
  · cases collected

structure Knows (c : Child) (past : List ProcessEntry) : Prop where
  reaped : c.reaped = endSeen c.pid past
  exitCode : c.exitCode = codeSeen? c.pid past

/-- What is asked of a call: it is about the child, which is not known to be gone. A signal to the
group comes directly after a look that found the child running, a signal to the process itself
directly after the group has taken none, and a child is only waited for once it was killed. -/
def Guarded (pid : Nat) (past : List ProcessEntry) (e : ProcessEntry) : Prop :=
  e.call.target? = some pid ∧ endSeen pid past = false ∧
    match e.call with
    | .signalGroup _ _ _ => ∃ look ∈ past.getLast?, look.call = .poll pid .alive
    | .signalProcess _ s _ => ∃ try' ∈ past.getLast?, try'.call = .signalGroup pid s false
    | .reap _ => ∃ sent ∈ past.getLast?, sent.call.attempt? = some .kill
    | .poll _ _ | .start _ => True

theorem Sending.guarded {pid : Nat} {s : Signal} {calls past : List ProcessEntry}
    {delivered : Bool} (sending : Sending pid s calls delivered)
    (unended : endSeen pid past = false)
    (looked : ∃ look ∈ past.getLast?, look.call = .poll pid .alive) :
    EachAfter (Guarded pid) past calls ∧ endSeen pid calls = false ∧
      ∃ sent ∈ (past ++ calls).getLast?, sent.call.attempt? = some s := by
  cases sending with
  | group began done =>
    exact ⟨⟨⟨rfl, unended, looked⟩, trivial⟩, rfl, by simp [ProcessCall.attempt?]⟩
  | process began done began' done' delivered =>
    refine ⟨⟨⟨rfl, unended, looked⟩, ⟨rfl, ?_, by simp⟩, trivial⟩, rfl,
      by simp [ProcessCall.attempt?]⟩
    simp [unended, ProcessCall.ends]

theorem Attempt.guarded {c : Child} {s : Signal} {began : Nat} {calls past : List ProcessEntry}
    {delivered : Bool} (attempt : Attempt s c began calls delivered)
    (unended : endSeen c.pid past = false) :
    EachAfter (Guarded c.pid) past calls ∧ endSeen c.pid calls = false ∧
      ∃ sent ∈ (past ++ calls).getLast?, sent.call.attempt? = some s := by
  obtain ⟨held, done, sending⟩ := attempt
  have looked : endSeen c.pid (past ++ [⟨.poll c.pid .alive, began, done⟩]) = false := by
    simp [unended, ProcessCall.ends]
  obtain ⟨guarded, still, sent⟩ := sending.guarded looked (by simp)
  rw [List.append_assoc] at sent
  exact ⟨⟨⟨rfl, unended, trivial⟩, guarded⟩, by simp [still, ProcessCall.ends], sent⟩

theorem Knows.unended {c : Child} {past : List ProcessEntry} (knows : Knows c past)
    (held : c.reaped = false) : endSeen c.pid past = false := knows.reaped.symm.trans held

theorem Knows.append {c : Child} {past calls : List ProcessEntry} (knows : Knows c past)
    (still : endSeen c.pid calls = false) : Knows c (past ++ calls) where
  reaped := by rw [knows.reaped, endSeen_append, still, Bool.or_false]
  exitCode := by
    rw [knows.exitCode, codeSeen?_append, codeSeen?_of_not_endSeen still, Option.or_none]

theorem Knows.look {c : Child} {past : List ProcessEntry} (knows : Knows c past)
    (held : c.reaped = false) (answer : Poll) (began done : Nat) :
    Knows (c.after answer) (past ++ [⟨.poll c.pid answer, began, done⟩]) := by
  have unended := knows.unended held
  have exitCode := knows.exitCode
  rw [codeSeen?_of_not_endSeen unended] at exitCode
  constructor
  · rw [reaped_after held, pid_after, endSeen_append, unended]
    simp [ProcessCall.ends]
  · rw [pid_after, codeSeen?_append, codeSeen?_of_not_endSeen unended]
    cases answer <;> simp [after, codeSeen?, ProcessCall.collects?, exitCode]

theorem Knows.reap {c : Child} {past : List ProcessEntry} (knows : Knows c past)
    (held : c.reaped = false) (began done : Nat) :
    Knows { c with reaped := true } (past ++ [⟨.reap c.pid, began, done⟩]) where
  reaped := by simp [ProcessCall.ends]
  exitCode := by
    rw [codeSeen?_append, codeSeen?_of_not_endSeen (knows.unended held), knows.exitCode,
      codeSeen?_of_not_endSeen (knows.unended held)]
    rfl

theorem Deal.guarded {c c' : Child} {calls past : List ProcessEntry} (deal : Deal c calls c')
    (knows : Knows c past) :
    EachAfter (Guarded c.pid) past calls ∧ Knows c' (past ++ calls) := by
  cases deal with
  | look looked =>
    obtain ⟨held, answer, began, done⟩ := looked
    exact ⟨⟨⟨rfl, knows.unended held, trivial⟩, trivial⟩, knows.look held answer began done⟩
  | signal attempt =>
    obtain ⟨guarded, still, -⟩ := attempt.guarded (knows.unended attempt.held)
    exact ⟨guarded, knows.append still⟩
  | collect attempt began' done' =>
    obtain ⟨guarded, still, killed⟩ := attempt.guarded (knows.unended attempt.held)
    have sent := knows.append still
    refine ⟨eachAfter_append.mpr ⟨guarded, ⟨rfl, sent.unended attempt.held, killed⟩, trivial⟩, ?_⟩
    rw [← List.append_assoc]
    exact sent.reap attempt.held began' done'

theorem Course.guarded {c c' : Child} {calls past : List ProcessEntry}
    (course : Course Deal c calls c') (knows : Knows c past) :
    EachAfter (Guarded c.pid) past calls ∧ Knows c' (past ++ calls) := by
  -- What the handle knows is the invariant: it guards the calls of the next dealing.
  induction course generalizing past with
  | nil c => exact ⟨trivial, by rwa [List.append_nil]⟩
  | cons deal _ ih =>
    obtain ⟨first, known⟩ := deal.guarded knows
    obtain ⟨rest, known⟩ := ih known
    rw [deal.pid] at rest
    rw [List.append_assoc] at known
    exact ⟨eachAfter_append.mpr ⟨first, rest⟩, known⟩

/-! ### Uses of a handle -/

/-- What the holder of a handle asks of it. -/
inductive Use where
  | isRunning
  | terminate
  | kill
  | waitForExit (timeout : Nat)
  deriving DecidableEq, Repr

def Use.ask : Use → Child → κ → Bool × Child × κ
  | .isRunning, c, k => c.isRunning k
  | .terminate, c, k => c.terminate k
  | .kill, c, k => c.kill k
  | .waitForExit timeout, c, k => c.waitForExit timeout k

/-- What is answered when the child is known to be gone. -/
def Use.answerWhenGone : Use → Bool
  | .waitForExit _ => true
  | _ => false

/-- What happens while a handle is held. -/
inductive Turn (κ : Type) where
  | use (u : Use)
  /-- Something happens in the system, to the child or elsewhere. -/
  | meanwhile (change : κ → κ)

/-- A handle with the system it was made in. -/
abbrev Holding (κ : Type) := Child × Recorded κ

namespace Holding

/-- A handle on a process that was just started. -/
def fresh (pid : Nat) (k : κ) : Holding κ := ({ pid := pid }, { kernel := k })

def take (h : Holding κ) : Turn κ → Holding κ
  | .use u => (u.ask h.1 h.2).2
  | .meanwhile change => (h.1, { h.2 with kernel := change h.2.kernel })

def live (h : Holding κ) (turns : List (Turn κ)) : Holding κ := turns.foldl take h

end Holding

theorem Use.ask_led (u : Use) (c : Child) (r : Recorded κ) :
    Led Deal c r (u.ask c r).2.1 (u.ask c r).2.2 := by
  cases u with
  | isRunning => exact (c.isRunning_looked r).led.deals
  | terminate => exact (signalIfRunning_signalled .term c r).led
  | kill => exact (signalIfRunning_signalled .kill c r).led
  | waitForExit timeout => exact (c.waitForExit_waited timeout r).led.deals

theorem Use.ask_of_reaped (u : Use) {c : Child} (gone : c.reaped) (k : κ) :
    u.ask c k = (u.answerWhenGone, c, k) := by
  cases u with
  | isRunning => exact isRunning_of_reaped gone k
  | terminate => exact signalIfRunning_of_reaped gone .term k
  | kill => exact signalIfRunning_of_reaped gone .kill k
  | waitForExit timeout => exact waitUntil_of_reaped gone _ k

namespace Holding

theorem take_led (h : Holding κ) (t : Turn κ) : Led Deal h.1 h.2 (h.take t).1 (h.take t).2 := by
  cases t with
  | use u => exact u.ask_led h.1 h.2
  | meanwhile change => exact .refl rfl

theorem live_led (h : Holding κ) (turns : List (Turn κ)) :
    Led Deal h.1 h.2 (h.live turns).1 (h.live turns).2 := by
  induction turns generalizing h with
  | nil => exact .refl rfl
  | cons t turns ih => exact (h.take_led t).trans (ih (h.take t))

/-- Whoever holds a handle on a child that is gone, does nothing with it. -/
theorem live_of_reaped {h : Holding κ} (gone : h.1.reaped) (turns : List (Turn κ)) :
    (h.live turns).1 = h.1 ∧ (h.live turns).2.entries = h.2.entries := by
  induction turns generalizing h with
  | nil => exact ⟨rfl, rfl⟩
  | cons t turns ih =>
    have idle : (h.take t).1 = h.1 ∧ (h.take t).2.entries = h.2.entries := by
      cases t with
      | use u =>
        unfold take
        dsimp only
        rw [u.ask_of_reaped gone]
        exact ⟨rfl, rfl⟩
      | meanwhile change => exact ⟨rfl, rfl⟩
    obtain ⟨child, entries⟩ := ih (idle.1 ▸ gone)
    exact ⟨child.trans idle.1, entries.trans idle.2⟩

end Holding

omit [Kernel κ] in
/-- What the calls of a fresh handle have found out is what the handle knows. -/
theorem Led.knows {pid : Nat} {k : κ} {c : Child} {r : Recorded κ}
    (led : Led Deal { pid := pid } { kernel := k } c r) :
    EachAfter (Guarded pid) [] r.entries ∧ c.pid = pid ∧ Knows c r.entries := by
  obtain ⟨calls, noted, course⟩ := led
  have whole : r.entries = calls := noted
  have unknowing : Knows { pid := pid } [] := ⟨rfl, rfl⟩
  obtain ⟨guarded, knows⟩ := course.guarded unknowing
  rw [whole]
  exact ⟨guarded, course.pid, knows⟩

/-- A handle is held for any number of turns and then given up, in a system that does whatever it
likes. No call is made once a call has found the child gone, and every signal comes directly after
a look that found the child running. The exit code is there if a call of this handle has
collected it, and is what that call answered: the exit status, or 128 and the signal's number.
Once the child is gone, nothing but the system changes any more: every use is answered at once,
and so is giving the handle up. A handle that is given up before looks once more, and if the child
is running kills it once and collects it. -/
theorem end_is_final (pid : Nat) (k : κ) (turns : List (Turn κ)) :
    let h := (Holding.fresh pid k).live turns
    let gone := endSeen pid h.2.entries
    EachAfter (Guarded pid) [] (h.1.release h.2).2.entries ∧
    h.1.exitCode = codeSeen? pid h.2.entries ∧
    (∀ code, h.1.exitCode = some code →
      ∃ e ∈ h.2.entries, e.call = .poll pid (.dead (.exited code)) ∨
        ∃ signal, e.call = .poll pid (.dead (.signalled signal)) ∧ code = 128 + signal) ∧
    ((h.1.isRunning h.2).1 = false ↔ endSeen pid (h.1.isRunning h.2).2.2.entries) ∧
    (∀ timeout, (h.1.waitForExit timeout h.2).1 ↔
      endSeen pid (h.1.waitForExit timeout h.2).2.2.entries) ∧
    (gone → ∀ later : List (Turn κ),
      let h' := h.live later
      h'.1 = h.1 ∧ h'.2.entries = h.2.entries ∧
        (∀ u : Use, u.ask h'.1 h'.2 = (u.answerWhenGone, h')) ∧ h'.1.release h'.2 = h') ∧
    (gone = false →
      (∃ answer began done, answer ≠ .alive ∧
        h.2.Extends [⟨.poll pid answer, began, done⟩] (h.1.release h.2).2) ∨
      ∃ began calls delivered began' done', Attempt .kill h.1 began calls delivered ∧
        h.2.Extends (calls ++ [⟨.reap pid, began', done'⟩]) (h.1.release h.2).2) := by
  intro h gone
  have led : Led Deal { pid := pid } { kernel := k } h.1 h.2 :=
    (Holding.fresh pid k).live_led turns
  obtain ⟨-, samePid, knows⟩ := led.knows
  obtain ⟨guarded, -, -⟩ := (led.trans (h.1.release_released h.2).led).knows
  -- Whatever is done next goes on from the fresh handle too, so the record tells what is known.
  have told {c : Child} {r : Recorded κ} (more : Led Deal h.1 h.2 c r) :
      c.reaped = endSeen pid r.entries := by
    obtain ⟨-, same, knows⟩ := (led.trans more).knows
    rw [knows.reaped, same]
  have exitCode : h.1.exitCode = codeSeen? pid h.2.entries := by rw [knows.exitCode, samePid]
  refine ⟨guarded, exitCode, fun code present => codeSeen?_eq_some (exitCode.symm.trans present),
    ?_, fun timeout => ?_, fun ended later => ?_, fun unended => ?_⟩
  · have looked := h.1.isRunning_looked h.2
    rw [← told looked.led.deals, looked.answer]
    simp
  · have waited := h.1.waitForExit_waited timeout h.2
    rw [← told waited.led.deals, waited.answer]
  · have reaped : h.1.reaped := (told (.refl rfl)).trans ended
    obtain ⟨child, entries⟩ := Holding.live_of_reaped reaped later
    have still : (h.live later).1.reaped := by rw [child, reaped]
    exact ⟨child, entries, fun u => u.ask_of_reaped still _, release_of_reaped still _⟩
  · have held : h.1.reaped = false := (told (.refl rfl)).trans unended
    have released := h.1.release_released h.2
    generalize h.1.release h.2 = left at released ⊢
    obtain ⟨c, r⟩ := left
    cases released with
    | known reaped => cases held.symm.trans reaped
    | @found done answer _ _ ended noted =>
      rw [samePid] at noted
      exact .inl ⟨answer, _, done, by simpa [reaped_after held] using ended, noted⟩
    | collected attempt noted =>
      rw [samePid] at noted
      exact .inr ⟨_, _, _, _, _, attempt, noted⟩

/-- A child that is found dead when it is asked to end. -/
theorem dead_child_is_left_alone :
    let dead : Process :=
      { pid := 7, group := 7, parent := Process.host, status := .dead (.signalled 9),
        directory := [] }
    let h := (Holding.fresh 7 ({ processes := [dead] } : System)).live [.use .terminate]
    h.1.exitCode = some 137 ∧ Use.kill.ask h.1 h.2 = (false, h) ∧ h.1.release h.2 = h := by
  intro dead h
  obtain ⟨-, exitCode, -, -, -, final, -⟩ :=
    end_is_final 7 ({ processes := [dead] } : System) [.use .terminate]
  obtain ⟨-, -, answers, released⟩ := final rfl []
  exact ⟨exitCode.trans rfl, answers .kill, released⟩

end ProviderHost.Child
