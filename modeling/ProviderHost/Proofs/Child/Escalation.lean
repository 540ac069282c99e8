import ProviderHost.Lifecycle.Teardown
import ProviderHost.Proofs.Child.Dealing

/-!
# How a process is brought to its end

A process is asked to end and, if it is still there when the grace period is over, killed.
`Escalation` lists the ways in which this goes by the calls that are made; which signals are sent,
and when, is read off from it.
-/

namespace ProviderHost.Child

variable {κ : Type} [Kernel κ]

/-- The ways in which ending a process goes, by the calls that were made. -/
inductive Escalation (grace : Nat) (c : Child) : List ProcessEntry → Ending → Child → Prop
  | known (gone : c.reaped) : Escalation grace c [] .notSignalled c
  | found {c' : Child} {looked : List ProcessEntry} (look : Look c looked c') (gone : c'.reaped) :
    Escalation grace c looked .notSignalled c'
  | refused {began : Nat} {asks : List ProcessEntry} (ask : Attempt .term c began asks false) :
    Escalation grace c asks .notSignalled c
  | inTime {c' : Child} {began : Nat} {asks looks : List ProcessEntry}
    (ask : Attempt .term c began asks true) (course : Course Look c looks c') (gone : c'.reaped) :
    Escalation grace c (asks ++ looks) .inTime c'
  /-- The grace period was over, and then the process was found dead. -/
  | late {c' : Child} {began : Nat} {asks looks looked : List ProcessEntry}
    (ask : Attempt .term c began asks true) (course : Course Look c looks c)
    (look : Look c looked c') (gone : c'.reaped) :
    Escalation grace c (asks ++ looks ++ looked) .killed c'
  | killed {c' : Child} {began began' : Nat} {asks looks kills ends : List ProcessEntry}
    {asked : ProcessEntry} {delivered : Bool} (ask : Attempt .term c began asks true)
    (final : asks.getLast? = some asked) (course : Course Look c looks c)
    (kill : Attempt .kill c began' kills delivered) (due : asked.done + grace ≤ began')
    (course' : Course Look c ends c') (gone : c'.reaped) :
    Escalation grace c (asks ++ looks ++ kills ++ ends) .killed c'
  | survived {began began' : Nat} {asks looks kills waits : List ProcessEntry}
    {asked killed last : ProcessEntry} {delivered : Bool} (ask : Attempt .term c began asks true)
    (final : asks.getLast? = some asked) (course : Course Look c looks c)
    (kill : Attempt .kill c began' kills delivered) (due : asked.done + grace ≤ began')
    (final' : kills.getLast? = some killed) (course' : Course Look c waits c)
    (final'' : waits.getLast? = some last) (waited : killed.done + killWait ≤ last.done) :
    Escalation grace c (asks ++ looks ++ kills ++ waits) .survived c

theorem insist_escalation {grace began : Nat} {c : Child} {asks looks : List ProcessEntry}
    {asked : ProcessEntry} {r : Recorded κ} (ask : Attempt .term c began asks true)
    (final : asks.getLast? = some asked) (course : Course Look c looks c)
    (due : asked.done + grace ≤ Kernel.now r) :
    ∃ calls, r.Extends calls (c.insist r).2.2 ∧
      Escalation grace c (asks ++ looks ++ calls) (c.insist r).1 (c.insist r).2.1 := by
  have signalled := signalIfRunning_signalled .kill c r
  unfold insist kill
  generalize c.signalIfRunning .kill r = sent at signalled ⊢
  obtain ⟨delivered, c₁, r₁⟩ := sent
  cases signalled with
  | known gone => cases ask.held.symm.trans gone
  | found look gone noted =>
    -- Dead after all, so the wait that follows makes no call.
    dsimp only at gone ⊢
    rw [waitForExit, waitUntil_of_reaped gone]
    exact ⟨_, noted, .late ask course look gone⟩
  | sent kill noted final' clock =>
    have waited := waitForExit_waited killWait c₁ r₁
    dsimp only
    generalize c₁.waitForExit killWait r₁ = waiting at waited ⊢
    obtain ⟨ended, c₂, r₂⟩ := waiting
    cases waited with
    | ended course' gone noted' =>
      have escalation := Escalation.killed ask final course kill due course' gone
      rw [List.append_assoc] at escalation
      exact ⟨_, noted.trans noted', escalation⟩
    | expired held course' noted' final'' late clock' =>
      have escalation := Escalation.survived ask final course kill due final' course' final''
        (clock ▸ late)
      rw [List.append_assoc] at escalation
      exact ⟨_, noted.trans noted', escalation⟩

theorem shutDown_escalation (grace : Nat) (c : Child) (r : Recorded κ) :
    ∃ calls, r.Extends calls (c.shutDown grace r).2.2 ∧
      Escalation grace c calls (c.shutDown grace r).1 (c.shutDown grace r).2.1 := by
  have signalled := signalIfRunning_signalled .term c r
  unfold shutDown terminate
  generalize c.signalIfRunning .term r = asked at signalled ⊢
  obtain ⟨delivered, c₁, r₁⟩ := asked
  cases signalled with
  | known gone => exact ⟨[], .refl _, .known gone⟩
  | found look gone noted => exact ⟨_, noted, .found look gone⟩
  | sent ask noted final clock =>
    cases delivered with
    | false => exact ⟨_, noted, .refused ask⟩
    | true =>
      have waited := waitForExit_waited grace c₁ r₁
      dsimp only
      generalize c₁.waitForExit grace r₁ = waiting at waited ⊢
      obtain ⟨ended, c₂, r₂⟩ := waiting
      cases waited with
      | ended course gone noted' => exact ⟨_, noted.trans noted', .inTime ask course gone⟩
      | expired held course noted' final' late clock' =>
        have due := late
        rw [clock', ← clock] at due
        obtain ⟨calls, noted'', escalation⟩ := insist_escalation ask final course due
        exact ⟨_, (noted.trans noted').trans noted'', escalation⟩

/-! ### What was sent -/

def delivered (calls : List ProcessEntry) : List Signal := calls.filterMap (·.call.delivered?)

/-- The calls that asked after a process. -/
def looks (calls : List ProcessEntry) : List ProcessEntry :=
  calls.filter (·.call.look?.isSome)

/-- Every look has found the process running. -/
def AllAlive (calls : List ProcessEntry) : Prop :=
  ∀ e ∈ calls, ∀ answer ∈ e.call.look?, answer = .alive

/-- A request to end was delivered, and the last look since then was made when the grace period
was over. -/
def Overdue (grace : Nat) (past : List ProcessEntry) : Prop :=
  ∃ before asked after last, past = before ++ asked :: after ∧
    asked.call.delivered? = some .term ∧ (looks after).getLast? = some last ∧
    asked.done + grace ≤ last.began

/-- What is asked of a call while a process is brought to its end: it is about the child, no
signal is sent to a child that was ever found gone, and none is killed before it is overdue. -/
def Justified (grace : Nat) (c : Child) (past : List ProcessEntry) (e : ProcessEntry) : Prop :=
  e.call.target? = some c.pid ∧
    ∀ s ∈ e.call.attempt?, c.reaped = false ∧ AllAlive past ∧ (s = .kill → Overdue grace past)

theorem delivered_append (first second : List ProcessEntry) :
    delivered (first ++ second) = delivered first ++ delivered second := List.filterMap_append

theorem AllAlive.append {first second : List ProcessEntry} (earlier : AllAlive first)
    (later : AllAlive second) : AllAlive (first ++ second) := fun e member =>
  (List.mem_append.mp member).elim (earlier e) (later e)

theorem allAlive_of_looks {c c' : Child} {calls : List ProcessEntry}
    (course : Course Look c calls c') (held : c'.reaped = false) : AllAlive calls := by
  intro e member answer asked
  rw [(course.alive held).2 e member] at asked
  exact (Option.some.inj asked).symm

theorem Course.polls {c c' : Child} {calls : List ProcessEntry} (course : Course Look c calls c') :
    ∀ e ∈ calls, ∃ answer, e.call = .poll c.pid answer := by
  induction course with
  | nil c => simp
  | cons deal _ ih =>
    obtain ⟨held, answer, began, done⟩ := deal
    intro e member
    rcases List.mem_cons.mp member with rfl | member
    · exact ⟨answer, rfl⟩
    · rw [pid_after] at ih
      exact ih e member

theorem Course.looks_eq {c c' : Child} {calls : List ProcessEntry}
    (course : Course Look c calls c') : looks calls = calls := by
  refine List.filter_eq_self.mpr fun e member => ?_
  obtain ⟨answer, asked⟩ := course.polls e member
  rw [asked]
  rfl

theorem Course.delivered {c c' : Child} {calls : List ProcessEntry}
    (course : Course Look c calls c') : delivered calls = [] := by
  refine List.filterMap_eq_nil_iff.mpr fun e member => ?_
  obtain ⟨answer, asked⟩ := course.polls e member
  rw [asked]
  rfl

theorem Course.justified {grace : Nat} {c d c' : Child} {past calls : List ProcessEntry}
    (course : Course Look c calls c') (samePid : c.pid = d.pid) :
    EachAfter (Justified grace d) past calls := by
  refine eachAfter_of_forall fun e member past => ?_
  obtain ⟨answer, asked⟩ := course.polls e member
  unfold Justified
  rw [asked, ← samePid]
  exact ⟨rfl, by simp [ProcessCall.attempt?]⟩

theorem Attempt.delivered {s : Signal} {c : Child} {began : Nat} {calls : List ProcessEntry}
    {taken : Bool} (attempt : Attempt s c began calls taken) :
    delivered calls = if taken then [s] else [] := by
  obtain ⟨held, done, sending⟩ := attempt
  cases sending with
  | group => rfl
  | process => cases taken <;> rfl

theorem Attempt.allAlive {s : Signal} {c : Child} {began : Nat} {calls : List ProcessEntry}
    {taken : Bool} (attempt : Attempt s c began calls taken) : AllAlive calls := by
  obtain ⟨held, done, sending⟩ := attempt
  cases sending <;> simp [AllAlive, ProcessCall.look?]

theorem Attempt.tries {s : Signal} {c : Child} {began : Nat} {calls : List ProcessEntry}
    {taken : Bool} (attempt : Attempt s c began calls taken) :
    (∃ e ∈ calls, e.call.attempt? = some s) ∧ ∀ e ∈ calls, ∀ s' ∈ e.call.attempt?, s' = s := by
  obtain ⟨held, done, sending⟩ := attempt
  cases sending <;> simp [ProcessCall.attempt?]

theorem Attempt.final {s : Signal} {c : Child} {began : Nat} {calls : List ProcessEntry}
    {taken : Bool} {last : ProcessEntry} (attempt : Attempt s c began calls taken)
    (final : calls.getLast? = some last) :
    last.call.attempt? = some s ∧ last.call.delivered? = if taken then some s else none := by
  obtain ⟨held, done, sending⟩ := attempt
  cases sending with
  | group =>
    cases final
    exact ⟨rfl, rfl⟩
  | process =>
    cases final
    cases taken <;> exact ⟨rfl, rfl⟩

theorem Overdue.append {grace : Nat} {past more : List ProcessEntry} (overdue : Overdue grace past)
    (unlooked : looks more = []) : Overdue grace (past ++ more) := by
  obtain ⟨before, asked, after, last, rfl, taken, final, late⟩ := overdue
  refine ⟨before, asked, after ++ more, last, by simp, taken, ?_, late⟩
  unfold looks at unlooked final ⊢
  rw [List.filter_append, unlooked, List.append_nil, final]

theorem Sending.justified {grace : Nat} {s : Signal} {c : Child} {past calls : List ProcessEntry}
    {taken : Bool} (sending : Sending c.pid s calls taken) (held : c.reaped = false)
    (alive : AllAlive past) (overdue : s = .kill → Overdue grace past) :
    EachAfter (Justified grace c) past calls := by
  have justified {past : List ProcessEntry} (alive : AllAlive past)
      (overdue : s = .kill → Overdue grace past) :
      ∀ s' ∈ some s, c.reaped = false ∧ AllAlive past ∧ (s' = .kill → Overdue grace past) := by
    intro s' same
    cases same
    exact ⟨held, alive, overdue⟩
  cases sending with
  | group => exact ⟨⟨rfl, justified alive overdue⟩, trivial⟩
  | process =>
    refine ⟨⟨rfl, justified alive overdue⟩,
      ⟨rfl, justified (alive.append ?_) fun kill => ?_⟩, trivial⟩
    · simp [AllAlive, ProcessCall.look?]
    · exact (overdue kill).append rfl

theorem Attempt.justified {grace : Nat} {s : Signal} {c : Child} {began : Nat}
    {past calls : List ProcessEntry} {taken : Bool} (attempt : Attempt s c began calls taken)
    (alive : AllAlive past) (due : s = .kill → ∃ before asked after,
      past = before ++ asked :: after ∧ asked.call.delivered? = some .term ∧
        asked.done + grace ≤ began) :
    EachAfter (Justified grace c) past calls := by
  obtain ⟨held, done, sending⟩ := attempt
  refine ⟨⟨rfl, by simp [ProcessCall.attempt?]⟩, sending.justified held (alive.append ?_) ?_⟩
  · simp [AllAlive, ProcessCall.look?]
  · intro kill
    obtain ⟨before, asked, after, rfl, taken, late⟩ := due kill
    refine ⟨before, asked, after ++ [⟨.poll c.pid .alive, began, done⟩],
      ⟨.poll c.pid .alive, began, done⟩, by simp, taken, ?_, late⟩
    rw [looks, List.filter_append, List.filter_cons_of_pos rfl]
    simp

namespace Escalation

variable {grace : Nat} {c c' : Child} {calls : List ProcessEntry} {ending : Ending}

theorem delivered (escalation : Escalation grace c calls ending c') :
    Child.delivered calls = [] ∨ Child.delivered calls = [.term] ∨
      Child.delivered calls = [.term, .kill] := by
  cases escalation with
  | known => exact .inl rfl
  | found look => exact .inl (Course.single look).delivered
  | refused ask => exact .inl ask.delivered
  | inTime ask course =>
    rw [delivered_append, ask.delivered, course.delivered]
    exact .inr (.inl rfl)
  | late ask course look =>
    rw [delivered_append, delivered_append, ask.delivered, course.delivered,
      (Course.single look).delivered]
    exact .inr (.inl rfl)
  | killed ask final course kill due course' | survived ask final course kill due final' course' =>
    rw [delivered_append, delivered_append, delivered_append, ask.delivered, course.delivered,
      kill.delivered, course'.delivered, if_pos rfl, List.append_nil, List.append_nil]
    split
    · exact .inr (.inr rfl)
    · exact .inr (.inl rfl)

theorem insisting_justified {past asks looks kills : List ProcessEntry} {began began' : Nat}
    {asked : ProcessEntry} {taken : Bool} (ask : Attempt .term c began asks true)
    (final : asks.getLast? = some asked) (course : Course Look c looks c)
    (kill : Attempt .kill c began' kills taken) (due : asked.done + grace ≤ began')
    (alive : AllAlive past) :
    EachAfter (Justified grace c) past (asks ++ looks ++ kills) := by
  have held := ask.held
  have aliveBefore := (alive.append ask.allAlive).append (allAlive_of_looks course held)
  obtain ⟨init, whole⟩ := List.getLast?_eq_some_iff.mp final
  refine eachAfter_append.mpr ⟨eachAfter_append.mpr ⟨ask.justified alive ?_, course.justified rfl⟩,
    kill.justified ?_ fun _ => ⟨past ++ init, asked, looks, ?_, (ask.final final).2, due⟩⟩
  · rintro ⟨⟩
  · rwa [← List.append_assoc]
  · -- The request was delivered by its last call.
    rw [whole]
    simp

theorem of_reaped (escalation : Escalation grace c calls ending c') (gone : c.reaped) :
    calls = [] ∧ ending = .notSignalled := by
  have unasked {began : Nat} {asks : List ProcessEntry} {taken : Bool}
      (ask : Attempt .term c began asks taken) : False := by
    cases ask.held.symm.trans gone
  cases escalation with
  | known => exact ⟨rfl, rfl⟩
  | found look => cases look with | mk held => cases held.symm.trans gone
  | refused ask | inTime ask | late ask | killed ask | survived ask => exact (unasked ask).elim

theorem course (escalation : Escalation grace c calls ending c') : Course Deal c calls c' := by
  cases escalation with
  | known => exact .nil c
  | found look => exact .single (.look look)
  | refused ask => exact .single (.signal ask)
  | inTime ask course => exact (Course.single (.signal ask)).trans course.deals
  | late ask course look =>
    exact ((Course.single (.signal ask)).trans course.deals).trans (.single (.look look))
  | killed ask final course kill due course' | survived ask final course kill due final' course' =>
    exact (((Course.single (.signal ask)).trans course.deals).trans
      (.single (.signal kill))).trans course'.deals

theorem justified {past : List ProcessEntry} (escalation : Escalation grace c calls ending c')
    (alive : c.reaped = false → AllAlive past) : EachAfter (Justified grace c) past calls := by
  have asking {began : Nat} {asks looks : List ProcessEntry} {d : Child} {taken : Bool}
      (ask : Attempt .term c began asks taken) (course : Course Look c looks d) :
      EachAfter (Justified grace c) past (asks ++ looks) :=
    eachAfter_append.mpr ⟨ask.justified (alive ask.held) (by rintro ⟨⟩), course.justified rfl⟩
  cases escalation with
  | known => trivial
  | found look => exact (Course.single look).justified rfl
  | refused ask => simpa using asking ask (.nil c)
  | inTime ask course => exact asking ask course
  | late ask course look =>
    exact eachAfter_append.mpr ⟨asking ask course, (Course.single look).justified rfl⟩
  | killed ask final course kill due course' | survived ask final course kill due final' course' =>
    exact eachAfter_append.mpr
      ⟨insisting_justified ask final course kill due (alive ask.held), course'.justified rfl⟩

theorem justified_after {c₀ : Child} {before : List ProcessEntry}
    (escalation : Escalation grace c calls ending c') (course : Course Look c₀ before c) :
    EachAfter (Justified grace c₀) [] (before ++ calls) := by
  refine eachAfter_append.mpr ⟨course.justified rfl, ?_⟩
  cases held : c.reaped with
  | true =>
    rw [(escalation.of_reaped held).1]
    trivial
  | false =>
    obtain ⟨rfl, -⟩ := course.alive held
    exact escalation.justified fun _ => allAlive_of_looks course held

/-- A kill is tried only when the process did not end in time. -/
theorem kills (escalation : Escalation grace c calls ending c')
    (tried : ∃ e ∈ calls, e.call.attempt? = some .kill) :
    ending = .killed ∨ ending = .survived := by
  obtain ⟨e, member, tried⟩ := tried
  have unlooked {d d' : Child} {looks : List ProcessEntry} (course : Course Look d looks d') :
      e ∉ looks := fun member => by
    obtain ⟨answer, asked⟩ := course.polls e member
    rw [asked] at tried
    cases tried
  have unasked {began : Nat} {asks : List ProcessEntry} {taken : Bool}
      (ask : Attempt .term c began asks taken) : e ∉ asks := fun member => by
    cases ask.tries.2 e member _ tried
  cases escalation with
  | known => cases member
  | found look => exact absurd member (unlooked (.single look))
  | refused ask => exact absurd member (unasked ask)
  | inTime ask course =>
    exact (List.mem_append.mp member).elim (absurd · (unasked ask)) (absurd · (unlooked course))
  | late | killed => exact .inl rfl
  | survived => exact .inr rfl

/-- A process that has survived was still there when the host had waited for it after the kill. -/
theorem survives (escalation : Escalation grace c calls .survived c') :
    AllAlive calls ∧ ∃ before killed after last, calls = before ++ killed :: after ∧
      killed.call.attempt? = some .kill ∧ (looks after).getLast? = some last ∧
      killed.done + killWait ≤ last.done := by
  cases escalation with
  | @survived _ _ asks looks kills waits asked killed last taken ask final course kill due final'
      course' final'' waited =>
    have held := ask.held
    obtain ⟨init, whole⟩ := List.getLast?_eq_some_iff.mp final'
    refine ⟨((ask.allAlive.append (allAlive_of_looks course held)).append kill.allAlive).append
      (allAlive_of_looks course' held), asks ++ looks ++ init, killed, waits, last, ?_,
      (kill.final final').1, ?_, waited⟩
    · rw [whole]
      simp
    · rw [course'.looks_eq, final'']

/-- As long as a process is not found gone, every means is used. -/
theorem persists (escalation : Escalation grace c calls ending c') (held : c'.reaped = false) :
    (∃ e ∈ calls, e.call.attempt? = some .term) ∧
      (.term ∈ Child.delivered calls → ∃ e ∈ calls, e.call.attempt? = some .kill) := by
  cases escalation with
  | known gone | found look gone | inTime ask course gone | late ask course look gone
  | killed ask final course kill due course' gone => cases held.symm.trans gone
  | refused ask =>
    refine ⟨ask.tries.1, fun taken => ?_⟩
    rw [ask.delivered] at taken
    cases taken
  | survived ask final course kill =>
    obtain ⟨e, member, tried⟩ := ask.tries.1
    obtain ⟨e', member', tried'⟩ := kill.tries.1
    exact ⟨⟨e, by simp [member], tried⟩, fun _ => ⟨e', by simp [member'], tried'⟩⟩

end Escalation

end ProviderHost.Child
