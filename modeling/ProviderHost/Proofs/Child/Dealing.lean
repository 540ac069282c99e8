import ProviderHost.Proofs.Child.Record

/-!
# Dealings with a child

What the host does with a child, by the calls that this makes: it looks whether the child is
running, and it may send a signal directly after a look that found it running. Nothing at all is
done with a child that was seen gone. Every operation of a handle is a course of such dealings.
-/

namespace ProviderHost.Child

variable {κ : Type} [Kernel κ]

/-! ### Dealings -/

/-- The calls of a signal: one to the group, and one to the process if the group takes none. -/
inductive Sending (pid : Nat) (s : Signal) : List ProcessEntry → Bool → Prop
  | group (began done : Nat) : Sending pid s [⟨.signalGroup pid s true, began, done⟩] true
  | process (began done began' done' : Nat) (delivered : Bool) :
    Sending pid s
      [⟨.signalGroup pid s false, began, done⟩, ⟨.signalProcess pid s delivered, began', done'⟩]
      delivered

inductive Look : Child → List ProcessEntry → Child → Prop
  | mk {c : Child} (held : c.reaped = false) (answer : Poll) (began done : Nat) :
    Look c [⟨.poll c.pid answer, began, done⟩] (c.after answer)

/-- A signal to a child, sent directly after a look that found it running at the time `began`. -/
inductive Attempt (s : Signal) (c : Child) (began : Nat) : List ProcessEntry → Bool → Prop
  | mk (held : c.reaped = false) (done : Nat) {calls : List ProcessEntry} {delivered : Bool}
    (sending : Sending c.pid s calls delivered) :
    Attempt s c began (⟨.poll c.pid .alive, began, done⟩ :: calls) delivered

theorem Attempt.held {s : Signal} {c : Child} {began : Nat} {calls : List ProcessEntry}
    {delivered : Bool} (attempt : Attempt s c began calls delivered) : c.reaped = false := by
  cases attempt
  assumption

inductive Deal : Child → List ProcessEntry → Child → Prop
  | look {c c' : Child} {calls : List ProcessEntry} (looked : Look c calls c') : Deal c calls c'
  | signal {c : Child} {s : Signal} {began : Nat} {calls : List ProcessEntry} {delivered : Bool}
    (attempt : Attempt s c began calls delivered) : Deal c calls c
  | collect {c : Child} {began : Nat} {calls : List ProcessEntry} {delivered : Bool}
    (attempt : Attempt .kill c began calls delivered) (began' done' : Nat) :
    Deal c (calls ++ [⟨.reap c.pid, began', done'⟩]) { c with reaped := true }

inductive Course (R : Child → List ProcessEntry → Child → Prop) :
    Child → List ProcessEntry → Child → Prop
  | nil (c : Child) : Course R c [] c
  | cons {c c' c'' : Child} {first rest : List ProcessEntry} (deal : R c first c')
    (course : Course R c' rest c'') : Course R c (first ++ rest) c''

namespace Course

variable {R S : Child → List ProcessEntry → Child → Prop} {c c' c'' : Child}
  {first rest calls : List ProcessEntry}

theorem single (deal : R c calls c') : Course R c calls c' := by
  have course := cons deal (nil c')
  rwa [List.append_nil] at course

theorem trans (course : Course R c first c') (later : Course R c' rest c'') :
    Course R c (first ++ rest) c'' := by
  induction course with
  | nil c => exact later
  | cons deal _ ih =>
    rw [List.append_assoc]
    exact cons deal (ih later)

theorem mono (weaker : ∀ {c calls c'}, R c calls c' → S c calls c') (course : Course R c calls c') :
    Course S c calls c' := by
  induction course with
  | nil c => exact nil c
  | cons deal _ ih => exact cons (weaker deal) ih

theorem deals (course : Course Look c calls c') : Course Deal c calls c' := course.mono .look

end Course

theorem pid_after (c : Child) (answer : Poll) : (c.after answer).pid = c.pid := by
  cases answer <;> rfl

theorem reaped_after {c : Child} (held : c.reaped = false) (answer : Poll) :
    (c.after answer).reaped = decide (answer ≠ .alive) := by
  cases answer <;> simp [after, held]

theorem Deal.pid {c c' : Child} {calls : List ProcessEntry} (deal : Deal c calls c') :
    c'.pid = c.pid := by
  cases deal with
  | look looked =>
    obtain ⟨held, answer⟩ := looked
    exact c.pid_after answer
  | signal | collect => rfl

theorem Course.pid {c c' : Child} {calls : List ProcessEntry} (course : Course Deal c calls c') :
    c'.pid = c.pid := by
  induction course with
  | nil c => rfl
  | cons deal _ ih => exact ih.trans deal.pid

/-- Looks at a child that is still held at the end have all found it running. -/
theorem Course.alive {c c' : Child} {calls : List ProcessEntry} (course : Course Look c calls c')
    (held : c'.reaped = false) :
    c' = c ∧ ∀ e ∈ calls, e.call = .poll c.pid .alive := by
  induction course with
  | nil c => exact ⟨rfl, by simp⟩
  | cons deal _ ih =>
    obtain ⟨rfl, later⟩ := ih held
    obtain ⟨first, answer, began, done⟩ := deal
    rw [reaped_after first] at held
    obtain rfl : answer = .alive := by simpa using held
    refine ⟨rfl, fun e member => ?_⟩
    rcases List.mem_cons.mp member with rfl | member
    · rfl
    · exact later e member

/-! ### The operations of a handle -/

theorem isRunning_of_reaped {c : Child} (gone : c.reaped) (k : κ) :
    c.isRunning k = (false, c, k) := by
  rw [isRunning, if_pos gone]

theorem isRunning_of_held {c : Child} (held : c.reaped = false) (k : κ) :
    c.isRunning k = (decide ((Kernel.poll c.pid k).1 = .alive),
      c.after (Kernel.poll c.pid k).1, (Kernel.poll c.pid k).2) := by
  unfold isRunning
  rw [held]
  generalize Kernel.poll c.pid k = asked
  obtain ⟨answer, k'⟩ := asked
  cases answer <;> rfl

inductive Looked (c : Child) (r : Recorded κ) : Bool → Child → Recorded κ → Prop
  | known (gone : c.reaped) : Looked c r false c r
  | found {done : Nat} {answer : Poll} {r' : Recorded κ} (held : c.reaped = false)
    (gone : (c.after answer).reaped)
    (noted : r.Extends [⟨.poll c.pid answer, Kernel.now r, done⟩] r') :
    Looked c r false (c.after answer) r'
  | alive {done : Nat} {r' : Recorded κ} (held : c.reaped = false)
    (noted : r.Extends [⟨.poll c.pid .alive, Kernel.now r, done⟩] r')
    (clock : done = Kernel.now r') : Looked c r true c r'

theorem isRunning_looked (c : Child) (r : Recorded κ) :
    Looked c r (c.isRunning r).1 (c.isRunning r).2.1 (c.isRunning r).2.2 := by
  cases held : c.reaped with
  | true =>
    rw [isRunning_of_reaped held]
    exact .known held
  | false =>
    rw [isRunning_of_held held]
    have noted : r.Extends [⟨.poll c.pid (Kernel.poll c.pid r).1, Kernel.now r,
      Kernel.now (Kernel.poll c.pid r).2⟩] (Kernel.poll c.pid r).2 := rfl
    generalize Kernel.poll c.pid r = asked at noted ⊢
    obtain ⟨answer, r'⟩ := asked
    by_cases running : answer = .alive
    · subst running
      exact .alive held noted rfl
    · rw [decide_eq_false running]
      exact .found held (by simpa [reaped_after held] using running) noted

theorem signal_sends (c : Child) (s : Signal) (r : Recorded κ) :
    ∃ calls last, r.Extends calls (c.signal s r).2 ∧ Sending c.pid s calls (c.signal s r).1 ∧
      calls.getLast? = some last ∧ last.done = Kernel.now (c.signal s r).2 := by
  have group : r.Extends [⟨.signalGroup c.pid s (Kernel.signalGroup c.pid s r).1, Kernel.now r,
    Kernel.now (Kernel.signalGroup c.pid s r).2⟩] (Kernel.signalGroup c.pid s r).2 := rfl
  unfold signal
  generalize Kernel.signalGroup c.pid s r = sent at group ⊢
  obtain ⟨delivered, r'⟩ := sent
  cases delivered with
  | true => exact ⟨_, _, group, .group _ _, rfl, rfl⟩
  | false =>
    have alone : r'.Extends [⟨.signalProcess c.pid s (Kernel.signalProcess c.pid s r').1,
      Kernel.now r', Kernel.now (Kernel.signalProcess c.pid s r').2⟩]
      (Kernel.signalProcess c.pid s r').2 := rfl
    exact ⟨_, _, group.trans alone, .process _ _ _ _ _, rfl, rfl⟩

theorem Looked.answer {c c' : Child} {r r' : Recorded κ} {running : Bool}
    (looked : Looked c r running c' r') : c'.reaped = !running := by
  cases looked with
  | known gone | found held gone => exact gone
  | alive held => exact held

inductive Signalled (s : Signal) (c : Child) (r : Recorded κ) : Bool → Child → Recorded κ → Prop
  | known (gone : c.reaped) : Signalled s c r false c r
  | found {c' : Child} {looked : List ProcessEntry} {r' : Recorded κ} (look : Look c looked c')
    (gone : c'.reaped) (noted : r.Extends looked r') : Signalled s c r false c' r'
  | sent {calls : List ProcessEntry} {last : ProcessEntry} {delivered : Bool} {r' : Recorded κ}
    (attempt : Attempt s c (Kernel.now r) calls delivered) (noted : r.Extends calls r')
    (final : calls.getLast? = some last) (clock : last.done = Kernel.now r') :
    Signalled s c r delivered c r'

theorem signalIfRunning_signalled (s : Signal) (c : Child) (r : Recorded κ) :
    Signalled s c r (c.signalIfRunning s r).1 (c.signalIfRunning s r).2.1
      (c.signalIfRunning s r).2.2 := by
  have looked := c.isRunning_looked r
  unfold signalIfRunning
  generalize c.isRunning r = answer at looked ⊢
  obtain ⟨running, c', r'⟩ := answer
  cases looked with
  | known gone => exact .known gone
  | found held gone noted => exact .found (.mk held _ _ _) gone noted
  | alive held noted clock =>
    obtain ⟨calls, last, sent, sending, final, clock⟩ := c'.signal_sends s r'
    refine .sent (.mk held _ sending) (noted.trans sent) ?_ clock
    rw [List.getLast?_cons, final, Option.getD_some]

theorem waitUntil_eq (deadline : Nat) (c : Child) (k : κ) :
    c.waitUntil deadline k =
      match c.isRunning k with
      | (false, c, k) => (true, c, k)
      | (true, c, k) =>
        if Kernel.now k < deadline then c.waitUntil deadline (Kernel.sleep pollInterval k)
        else (false, c, k) := by
  rw [waitUntil]
  split <;> rename_i asked <;> rw [asked]

/-- How a wait goes. One that gives up has asked last when its time was over. -/
inductive Waited (deadline : Nat) (c : Child) (r : Recorded κ) :
    Bool → Child → Recorded κ → Prop
  | ended {c' : Child} {looks : List ProcessEntry} {r' : Recorded κ}
    (course : Course Look c looks c') (gone : c'.reaped) (noted : r.Extends looks r') :
    Waited deadline c r true c' r'
  | expired {looks : List ProcessEntry} {last : ProcessEntry} {r' : Recorded κ}
    (held : c.reaped = false) (course : Course Look c looks c) (noted : r.Extends looks r')
    (final : looks.getLast? = some last) (late : deadline ≤ last.done)
    (clock : last.done = Kernel.now r') : Waited deadline c r false c r'

theorem Waited.answer {deadline : Nat} {c c' : Child} {r r' : Recorded κ} {ended : Bool}
    (waited : Waited deadline c r ended c' r') : c'.reaped = ended := by
  cases waited with
  | ended course gone => exact gone
  | expired held => exact held

theorem waitUntil_waited (deadline : Nat) (c : Child) (r : Recorded κ) :
    Waited deadline c r (c.waitUntil deadline r).1 (c.waitUntil deadline r).2.1
      (c.waitUntil deadline r).2.2 := by
  -- A round finds the child gone, or sleeps and goes on, or is the last because it is late.
  induction c, r using @waitUntil.induct (Recorded κ) _ deadline with
  | case1 c r c' r' asked =>
    have looked := c.isRunning_looked r
    rw [waitUntil_eq, asked]
    rw [asked] at looked
    cases looked with
    | known gone => exact .ended (.nil _) gone (.refl _)
    | found held gone noted => exact .ended (.single (.mk held _ _ _)) gone noted
  | case2 c r c' r' asked early ih =>
    have looked := c.isRunning_looked r
    rw [waitUntil_eq, asked]
    rw [asked] at looked
    dsimp only
    rw [if_pos early]
    cases looked with
    | alive held noted clock =>
      generalize c'.waitUntil deadline (Kernel.sleep pollInterval r') = waited at ih ⊢
      obtain ⟨answer, d, r''⟩ := waited
      cases ih with
      | ended course gone later =>
        exact .ended (.cons (.mk held .alive _ _) course) gone (noted.trans later)
      | expired held course later final late clock =>
        refine .expired held (.cons (.mk held .alive _ _) course) (noted.trans later) ?_ late clock
        rw [List.singleton_append, List.getLast?_cons, final, Option.getD_some]
  | case3 c r c' r' asked late =>
    have looked := c.isRunning_looked r
    rw [waitUntil_eq, asked]
    rw [asked] at looked
    dsimp only
    rw [if_neg late]
    cases looked with
    | alive held noted clock =>
      refine .expired held (.single (.mk held .alive _ _)) noted rfl ?_ clock
      rw [clock]
      exact Nat.le_of_not_lt late

theorem waitForExit_waited (timeout : Nat) (c : Child) (r : Recorded κ) :
    Waited (Kernel.now r + timeout) c r (c.waitForExit timeout r).1 (c.waitForExit timeout r).2.1
      (c.waitForExit timeout r).2.2 := waitUntil_waited _ c r

inductive Released (c : Child) (r : Recorded κ) : Child → Recorded κ → Prop
  | known (gone : c.reaped) : Released c r c r
  | found {done : Nat} {answer : Poll} {r' : Recorded κ} (held : c.reaped = false)
    (gone : (c.after answer).reaped)
    (noted : r.Extends [⟨.poll c.pid answer, Kernel.now r, done⟩] r') :
    Released c r (c.after answer) r'
  | collected {began' done' : Nat} {calls : List ProcessEntry} {delivered : Bool}
    {r' : Recorded κ} (attempt : Attempt .kill c (Kernel.now r) calls delivered)
    (noted : r.Extends (calls ++ [⟨.reap c.pid, began', done'⟩]) r') :
    Released c r { c with reaped := true } r'

theorem release_released (c : Child) (r : Recorded κ) :
    Released c r (c.release r).1 (c.release r).2 := by
  have looked := c.isRunning_looked r
  unfold release
  generalize c.isRunning r = answer at looked ⊢
  obtain ⟨running, c', r'⟩ := answer
  cases looked with
  | known gone => exact .known gone
  | found held gone noted => exact .found held gone noted
  | alive held noted clock =>
    obtain ⟨calls, last, sent, sending, -, -⟩ := c'.signal_sends .kill r'
    have collected : (c'.signal .kill r').2.Extends [⟨.reap c'.pid, _, _⟩]
      (Kernel.reap c'.pid (c'.signal .kill r').2) := rfl
    exact .collected (.mk held _ sending) ((noted.trans sent).trans collected)

/-! ### A child that was seen gone -/

theorem signalIfRunning_of_reaped {c : Child} (gone : c.reaped) (s : Signal) (k : κ) :
    c.signalIfRunning s k = (false, c, k) := by
  rw [signalIfRunning, isRunning_of_reaped gone]

theorem waitUntil_of_reaped {c : Child} (gone : c.reaped) (deadline : Nat) (k : κ) :
    c.waitUntil deadline k = (true, c, k) := by
  rw [waitUntil_eq, isRunning_of_reaped gone]

theorem release_of_reaped {c : Child} (gone : c.reaped) (k : κ) : c.release k = (c, k) := by
  rw [release, isRunning_of_reaped gone]

/-! ### Courses in a system -/

/-- A course of dealings between two states of a child and of the record. -/
def Led (R : Child → List ProcessEntry → Child → Prop) (c : Child) (r : Recorded κ) (c' : Child)
    (r' : Recorded κ) : Prop :=
  ∃ calls, r.Extends calls r' ∧ Course R c calls c'

section

variable {R : Child → List ProcessEntry → Child → Prop} {c c' c'' : Child} {r r' r'' : Recorded κ}

omit [Kernel κ] in
theorem Led.refl (same : r'.entries = r.entries) : Led R c r c r' :=
  ⟨[], same.trans (List.append_nil _).symm, .nil c⟩

omit [Kernel κ] in
theorem Led.trans (first : Led R c r c' r') (second : Led R c' r' c'' r'') :
    Led R c r c'' r'' := by
  obtain ⟨calls, noted, course⟩ := first
  obtain ⟨more, noted', course'⟩ := second
  exact ⟨calls ++ more, noted.trans noted', course.trans course'⟩

omit [Kernel κ] in
theorem Led.deals (led : Led Look c r c' r') : Led Deal c r c' r' := by
  obtain ⟨calls, noted, course⟩ := led
  exact ⟨calls, noted, course.deals⟩

end

theorem Looked.led {c c' : Child} {r r' : Recorded κ} {running : Bool}
    (looked : Looked c r running c' r') : Led Look c r c' r' := by
  cases looked with
  | known => exact .refl rfl
  | found held gone noted => exact ⟨_, noted, .single (.mk held _ _ _)⟩
  | alive held noted => exact ⟨_, noted, .single (.mk held .alive _ _)⟩

theorem Waited.led {deadline : Nat} {c c' : Child} {r r' : Recorded κ} {ended : Bool}
    (waited : Waited deadline c r ended c' r') : Led Look c r c' r' := by
  cases waited with
  | ended course gone noted => exact ⟨_, noted, course⟩
  | expired held course noted => exact ⟨_, noted, course⟩

theorem Signalled.led {s : Signal} {c c' : Child} {r r' : Recorded κ} {delivered : Bool}
    (signalled : Signalled s c r delivered c' r') : Led Deal c r c' r' := by
  cases signalled with
  | known => exact .refl rfl
  | found look gone noted => exact ⟨_, noted, .single (.look look)⟩
  | sent attempt noted => exact ⟨_, noted, .single (.signal attempt)⟩

theorem Released.led {c c' : Child} {r r' : Recorded κ} (released : Released c r c' r') :
    Led Deal c r c' r' := by
  cases released with
  | known => exact .refl rfl
  | found held gone noted => exact ⟨_, noted, .single (.look (.mk held _ _ _))⟩
  | collected attempt noted => exact ⟨_, noted, .single (.collect attempt _ _)⟩

end ProviderHost.Child
