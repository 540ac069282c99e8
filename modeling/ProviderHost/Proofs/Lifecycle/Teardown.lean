import ProviderHost.Proofs.Child.Escalation
import ProviderHost.Proofs.Lifecycle.Conduct

/-!
# Tearing an instance down

Before its process is asked to end, an instance that is torn down is only looked at, and what is
reported of it is routine. So the signals and the warnings of a teardown are those of the
escalation.
-/

namespace ProviderHost

namespace Ending

/-- What is reported of an ending. -/
def reports (id : Text) (grace pid : Nat) : Ending → List Report
  | notSignalled | inTime => []
  | killed => [(.warn, impatience id grace)]
  | survived => [(.warn, impatience id grace), (.error, survival id pid)]

theorem report_eq_tell (id : Text) (grace pid : Nat) (j : Journal) (ending : Ending) :
    ending.report id grace pid j = j.tell (ending.reports id grace pid) := by
  cases ending <;> rfl

theorem level_of_reports {id : Text} {grace pid : Nat} {ending : Ending} {r : Report}
    (member : r ∈ ending.reports id grace pid) : r.1 ≠ .info := by
  cases ending with
  | notSignalled | inTime => cases member
  | killed =>
    obtain rfl := List.mem_singleton.mp member
    rintro ⟨⟩
  | survived =>
    rcases List.mem_cons.mp member with rfl | member
    · rintro ⟨⟩
    · obtain rfl := List.mem_singleton.mp member
      rintro ⟨⟩

end Ending

namespace Instance

open Child (Look)

variable {δ κ : Type}

theorem Routine.not_error {id message : Text} : ¬ Routine id (.error, message) := by
  rintro ⟨⟩

/-- Nothing else that is reported reads like the warning about the grace period. -/
theorem Routine.not_impatience {id : Text} {grace : Nat} :
    ¬ Routine id (.warn, Ending.impatience id grace) := by
  intro routine
  generalize same : (Level.warn, Ending.impatience id grace) = report at routine
  cases routine with
  | detail | change => cases same
  | exit =>
    have texts := (Prod.ext_iff.mp same).2
    unfold Ending.impatience at texts
    simp only [List.append_assoc, List.append_cancel_left_eq] at texts
    cases texts
  | dismissal kind reason =>
    have texts := (Prod.ext_iff.mp same).2
    unfold Ending.impatience at texts
    cases kind <;> cases texts

theorem impatience_told_once {id : Text} {grace pid : Nat} {prior : List Report} {ending : Ending}
    (routine : ∀ r ∈ prior, Routine id r) (killed : ending = .killed ∨ ending = .survived) :
    (prior ++ ending.reports id grace pid).count (.warn, Ending.impatience id grace) = 1 := by
  have before : prior.count (.warn, Ending.impatience id grace) = 0 :=
    List.count_eq_zero.mpr fun member => Routine.not_impatience (routine _ member)
  rw [List.count_append, before]
  rcases killed with rfl | rfl <;> simp [Ending.reports]

theorem survived_of_told {id : Text} {grace pid : Nat} {prior : List Report} {ending : Ending}
    (routine : ∀ r ∈ prior, Routine id r)
    (told : (.error, Ending.survival id pid) ∈ prior ++ ending.reports id grace pid) :
    ending = .survived := by
  rcases List.mem_append.mp told with member | member
  · exact absurd (routine _ member) Routine.not_error
  · cases ending <;> simp_all [Ending.reports]

variable [Document δ] [Kernel κ]

/-- Everything before the process is ended only looks at it. -/
theorem tearDown_prepared (site : Site δ) (graceful : Bool) (i : Instance) (k : Recorded κ)
    (files : Files) :
    ∃ i' k' files' reports,
      (∀ j, i.tearDown site graceful ⟨k, j, files⟩ =
        i'.endProcess site.settings ⟨k', j.tell reports, files'⟩) ∧
      Conduct Look (Routine i.id) i k reports i' k' := by
  obtain ⟨i₁, k₁, files₁, first, joined, conduct₁⟩ := i.joinMonitor_conduct site k files
  have dismissed : ∃ (i₂ : Instance) (k₂ : Recorded κ) (reports : List Report),
      (∀ j, (if graceful then i₁.dismiss site.settings ⟨k₁, j, files₁⟩ else (i₁, ⟨k₁, j, files₁⟩)) =
        (i₂, ⟨k₂, j.tell reports, files₁⟩)) ∧
      Conduct Look (Routine i₁.id) i₁ k₁ reports i₂ k₂ := by
    cases graceful with
    | true =>
      simp only [if_true]
      exact i₁.dismiss_conduct site.settings k₁ files₁
    | false => exact ⟨i₁, k₁, [], fun j => rfl, .silent rfl (.same rfl rfl)⟩
  obtain ⟨i₂, k₂, second, dismissed, conduct₂⟩ := dismissed
  obtain ⟨i₃, k₃, third, closed, conduct₃⟩ := i₂.disconnect_conduct k₂ files₁
  rw [conduct₁.id] at conduct₂
  refine ⟨i₃, k₃, files₁, first ++ second ++ third, fun j => ?_,
    (conduct₁.trans conduct₂).trans (conduct₃.mono fun _ => .of_detail)⟩
  simp only [tearDown, joined, dismissed, closed, Journal.tell_append]

/-- The process of an instance is torn down with whatever the process and the system do. The
signals that reach it are none, a request to end, or a request to end and a kill. None is sent to
a process that was found gone, and it is only killed when a request to end was delivered and a
look after the grace period has still found it running, as have all looks before. A kill is
announced by exactly one warning, and a process is only said to have survived when the last look
has found it running a second after the kill. As long as it is not found gone, the next means is
used. -/
theorem teardown_escalates (site : Site δ) (graceful : Bool) (i : Instance) (c : Child) (k : κ)
    (files : Files) :
    ∃ (i' : Instance) (c' : Child) (k' : κ) (files' : Files) (reports : List Report)
      (entries : List ProcessEntry), i'.child = some c' ∧
      (∀ j, { i with child := some c }.tearDown site graceful
          (⟨⟨k, []⟩, j, files⟩ : World (Recorded κ)) =
        (i', ⟨⟨k', entries⟩, j.tell reports, files'⟩)) ∧
      (Child.delivered entries = [] ∨ Child.delivered entries = [.term] ∨
        Child.delivered entries = [.term, .kill]) ∧
      EachAfter (Child.Justified site.settings.stopGrace c) [] entries ∧
      ((∃ e ∈ entries, e.call.attempt? = some .kill) →
        reports.count (.warn, Ending.impatience i.id site.settings.stopGrace) = 1) ∧
      ((.error, Ending.survival i.id c.pid) ∈ reports →
        Child.AllAlive entries ∧ ∃ before killed after last, entries = before ++ killed :: after ∧
          killed.call.attempt? = some .kill ∧ (Child.looks after).getLast? = some last ∧
          killed.done + Child.killWait ≤ last.done) ∧
      (c'.reaped = false → (∃ e ∈ entries, e.call.attempt? = some .term) ∧
        (.term ∈ Child.delivered entries → ∃ e ∈ entries, e.call.attempt? = some .kill)) := by
  obtain ⟨i₁, k₁, files₁, prior, prepared, conduct⟩ :=
    { i with child := some c }.tearDown_prepared site graceful ⟨k, []⟩ files
  obtain ⟨c₁, held₁, looks, noted, course⟩ := conduct.child.present c rfl
  obtain ⟨calls, noted', escalation⟩ := c₁.shutDown_escalation site.settings.stopGrace k₁
  cases shut : c₁.shutDown site.settings.stopGrace k₁ with
  | mk ending rest =>
    obtain ⟨c', k', entries⟩ := rest
    -- One record holds the looks of the preparation and then the calls of the escalation.
    rw [shut] at noted' escalation
    obtain rfl : entries = looks ++ calls := noted.trans noted'
    have samePid : c'.pid = c.pid := escalation.course.pid.trans course.deals.pid
    have unsignalled : ∀ e ∈ looks, e.call.attempt? = none := fun e member => by
      obtain ⟨answer, asked⟩ := course.polls e member
      rw [asked]
      rfl
    refine ⟨{ i₁ with child := some c' }, c', k', files₁,
      prior ++ ending.reports i.id site.settings.stopGrace c.pid, looks ++ calls, rfl, fun j => ?_,
      ?_, ?_, ?_, ?_, ?_⟩
    · rw [prepared, endProcess, held₁]
      simp only [shut, Ending.report_eq_tell, conduct.id, samePid, Journal.tell_append]
    · rw [Child.delivered_append, course.delivered]
      exact escalation.delivered
    · exact escalation.justified_after course
    · rintro ⟨e, member, tried⟩
      refine impatience_told_once conduct.told (escalation.kills ⟨e, ?_, tried⟩)
      refine (List.mem_append.mp member).resolve_left fun member => ?_
      rw [unsignalled e member] at tried
      cases tried
    · intro told
      obtain rfl := survived_of_told conduct.told told
      obtain ⟨alive, before, killed, after, last, rfl, tried, final, waited⟩ := escalation.survives
      have held : c₁.reaped = false := by
        cases held : c₁.reaped with
        | true => cases (escalation.of_reaped held).2
        | false => rfl
      exact ⟨(Child.allAlive_of_looks course held).append alive, looks ++ before, killed, after,
        last, by simp, tried, final, waited⟩
    · intro held
      obtain ⟨⟨e, member, tried⟩, kills⟩ := escalation.persists held
      refine ⟨⟨e, List.mem_append_right looks member, tried⟩, fun taken => ?_⟩
      rw [Child.delivered_append, course.delivered] at taken
      obtain ⟨e, member, tried⟩ := kills taken
      exact ⟨e, List.mem_append_right looks member, tried⟩

end Instance

end ProviderHost
