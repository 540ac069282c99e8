import ProviderHost.Proofs.Lifecycle.Probing
import ProviderHost.System
import Mathlib

/-!
# The wait for a provider

A wait needs a clock, a way to make a round of observations and a way to sleep; a `Watch` is all
that, with a clock that may stand still. `Watch.Awaits` is the wait on a watch, which need not end,
and the wait of the host is the one on its system (`awaits_watch_iff`). Which round ends a wait, and
how, depends on the observations alone (`awaits_iff`).
-/

namespace ProviderHost

namespace AwaitRound

variable {deadline interval : Nat} {r : AwaitRound}

/-- Nothing that was observed in a round ends the wait. -/
structure IsVain (deadline : Nat) (r : AwaitRound) : Prop where
  failed : r.healthy = false
  alive : r.alive = true
  early : r.clock < deadline

/-- What was observed in a round when it ends the wait. -/
def Shows (deadline : Nat) (r : AwaitRound) : AwaitVerdict → Prop
  | .healthy => r.healthy = true
  | .exited => r.healthy = false ∧ r.alive = false
  | .timedOut => r.healthy = false ∧ r.alive = true ∧ deadline ≤ r.clock

theorem verdict?_eq_none_iff : r.verdict? deadline = none ↔ r.IsVain deadline := by
  constructor
  · intro goesOn
    have early := Instance.verdict?_eq_none goesOn
    unfold verdict? at goesOn
    split at goesOn
    · cases goesOn
    · rename_i failed
      split at goesOn
      · cases goesOn
      · rename_i alive
        exact ⟨by simpa using failed, by simpa using alive, early⟩
  · rintro ⟨failed, alive, early⟩
    simp [verdict?, failed, alive, early]

theorem verdict?_eq_some_iff {v : AwaitVerdict} :
    r.verdict? deadline = some v ↔ r.Shows deadline v := by
  unfold verdict?
  cases healthy : r.healthy with
  | true => cases v <;> simp [Shows, healthy]
  | false =>
    cases alive : r.alive with
    | false => cases v <;> simp [Shows, healthy, alive]
    | true =>
      by_cases late : deadline ≤ r.clock <;> cases v <;> simp [Shows, healthy, alive, late]

/-- A sleep is not longer than the interval, and ends at the deadline at the latest. -/
theorem pause_le (vain : r.IsVain deadline) :
    r.pause interval deadline ≤ interval ∧ r.clock + r.pause interval deadline ≤ deadline := by
  have := vain.early
  unfold pause
  omega

end AwaitRound

/-- The code of the fault that a wait answers, if it does not succeed. -/
def AwaitVerdict.answer : AwaitVerdict → Except Text Unit
  | .healthy => .ok ()
  | .exited => .error "process_exited"
  | .timedOut => .error "probe_timeout"

/-- What a wait is carried out on. -/
structure Watch (σ : Type) where
  now : σ → Nat
  look : σ → AwaitRound × σ
  sleep : Nat → σ → σ
  clock_look : ∀ st, (look st).1.clock = now (look st).2
  now_le_look : ∀ st, now st ≤ now (look st).2
  now_le_sleep : ∀ d st, now st ≤ now (sleep d st)

namespace Watch

variable {σ : Type} (w : Watch σ) (interval deadline : Nat)

def next (st : σ) : σ :=
  w.sleep ((w.look st).1.pause interval deadline) (w.look st).2

/-- A wait that ends, with its verdict: it makes rounds until one of them ends it. -/
inductive Awaits : σ → AwaitVerdict → σ → Prop
  | ended {st : σ} {v : AwaitVerdict} (shown : (w.look st).1.verdict? deadline = some v) :
    Awaits st v (w.look st).2
  | resumed {st st' : σ} {v : AwaitVerdict} (vain : (w.look st).1.verdict? deadline = none)
    (rest : Awaits (w.next interval deadline st) v st') : Awaits st v st'

/-- The state in which a round begins. -/
def before (st : σ) : Nat → σ
  | 0 => st
  | n + 1 => w.next interval deadline (before st n)

/-- What is observed in a round. -/
def round (st : σ) (n : Nat) : AwaitRound := (w.look (w.before interval deadline st n)).1

/-- The wait goes on until a round, which ends it. -/
structure EndsAt (st : σ) (n : Nat) (v : AwaitVerdict) : Prop where
  shows : (w.round interval deadline st n).Shows deadline v
  vain : ∀ m < n, (w.round interval deadline st m).IsVain deadline

variable {w interval deadline} {st st' : σ} {n : Nat} {v : AwaitVerdict}

theorem before_next (st : σ) (n : Nat) :
    w.before interval deadline (w.next interval deadline st) n =
      w.before interval deadline st (n + 1) := by
  induction n with
  | zero => rfl
  | succ n ih => exact congrArg (w.next interval deadline) ih

theorem round_next (st : σ) (n : Nat) :
    w.round interval deadline (w.next interval deadline st) n =
      w.round interval deadline st (n + 1) := by
  rw [round, round, before_next]

theorem awaits_of_endsAt (ends : w.EndsAt interval deadline st n v) :
    w.Awaits interval deadline st v (w.look (w.before interval deadline st n)).2 := by
  induction n generalizing st with
  | zero => exact .ended (AwaitRound.verdict?_eq_some_iff.mpr ends.shows)
  | succ n ih =>
    have later : w.EndsAt interval deadline (w.next interval deadline st) n v := by
      refine ⟨?_, fun m earlier => ?_⟩
      · rw [round_next]
        exact ends.shows
      · rw [round_next]
        exact ends.vain (m + 1) (Nat.succ_lt_succ earlier)
    rw [← before_next]
    exact .resumed (AwaitRound.verdict?_eq_none_iff.mpr (ends.vain 0 (Nat.succ_pos n))) (ih later)

theorem endsAt_of_awaits (awaits : w.Awaits interval deadline st v st') :
    ∃ n, w.EndsAt interval deadline st n v ∧
      st' = (w.look (w.before interval deadline st n)).2 := by
  induction awaits with
  | ended shown => exact ⟨0, ⟨AwaitRound.verdict?_eq_some_iff.mp shown, nofun⟩, rfl⟩
  | resumed goesOn rest ih =>
    obtain ⟨n, ⟨shows, vain⟩, last⟩ := ih
    refine ⟨n + 1, ⟨by rw [← round_next]; exact shows, fun m earlier => ?_⟩,
      by rw [last, before_next]⟩
    cases m with
    | zero => exact AwaitRound.verdict?_eq_none_iff.mp goesOn
    | succ m =>
      rw [← round_next]
      exact vain m (Nat.lt_of_succ_lt_succ earlier)

theorem awaits_iff :
    w.Awaits interval deadline st v st' ↔ ∃ n, w.EndsAt interval deadline st n v ∧
      st' = (w.look (w.before interval deadline st n)).2 := by
  refine ⟨endsAt_of_awaits, ?_⟩
  rintro ⟨n, ends, rfl⟩
  exact awaits_of_endsAt ends

theorem Awaits.unique {v' : AwaitVerdict} {st'' : σ} (one : w.Awaits interval deadline st v st')
    (other : w.Awaits interval deadline st v' st'') : (v, st') = (v', st'') := by
  induction one with
  | ended shown =>
    cases other with
    | ended shown' =>
      cases shown.symm.trans shown'
      rfl
    | resumed vain => cases shown.symm.trans vain
  | resumed vain rest ih =>
    cases other with
    | ended shown => cases vain.symm.trans shown
    | resumed vain' rest' => exact ih rest'

/-! ### How long a wait is -/

theorem exists_endsAt {bound : Nat}
    (ended : ¬(w.round interval deadline st bound).IsVain deadline) :
    ∃ n v, n ≤ bound ∧ w.EndsAt interval deadline st n v := by
  induction bound using Nat.strongRecOn with
  | ind bound ih =>
    by_cases vain : ∀ m < bound, (w.round interval deadline st m).IsVain deadline
    · cases shown : (w.round interval deadline st bound).verdict? deadline with
      | none => exact absurd (AwaitRound.verdict?_eq_none_iff.mp shown) ended
      | some v =>
        exact ⟨bound, v, Nat.le_refl _, AwaitRound.verdict?_eq_some_iff.mp shown, vain⟩
    · push Not at vain
      obtain ⟨m, earlier, ended⟩ := vain
      obtain ⟨n, v, first, ends⟩ := ih m earlier ended
      exact ⟨n, v, Nat.le_trans first (Nat.le_of_lt earlier), ends⟩

theorem clock_round (w : Watch σ) (interval deadline : Nat) (st : σ) (n : Nat) :
    w.now (w.before interval deadline st n) ≤ (w.round interval deadline st n).clock := by
  rw [round, w.clock_look]
  exact w.now_le_look _

theorem clock_gains (lasts : ∀ d st, w.now st + d ≤ w.now (w.sleep d st))
    (vain : ∀ m < n, (w.round interval deadline st m).IsVain deadline) :
    min deadline (w.now st + n * interval) ≤ w.now (w.before interval deadline st n) := by
  induction n with
  | zero => simp only [before]; omega
  | succ n ih =>
    have gained := ih fun m earlier => vain m (Nat.lt_succ_of_lt earlier)
    have read := w.clock_round interval deadline st n
    have early := (vain n (Nat.lt_succ_self n)).early
    have slept := lasts ((w.round interval deadline st n).pause interval deadline)
      (w.look (w.before interval deadline st n)).2
    rw [← w.clock_look] at slept
    change (w.round interval deadline st n).clock + _ ≤
      w.now (w.before interval deadline st (n + 1)) at slept
    simp only [AwaitRound.pause] at slept
    rw [Nat.succ_mul]
    omega

/-- Where sleeps last, the wait is over after as many intervals as cover the window. -/
theorem exists_endsAt_of_lasting (w : Watch σ) (st : σ) {window : Nat} (positive : 0 < interval)
    (lasts : ∀ d st, w.now st + d ≤ w.now (w.sleep d st)) :
    ∃ n v, n ≤ window ⌈/⌉ interval ∧ w.EndsAt interval (w.now st + window) st n v := by
  have covers : window ≤ window ⌈/⌉ interval * interval := by
    rw [Nat.mul_comm, ← smul_eq_mul]
    exact le_smul_ceilDiv positive
  by_cases vain : ∀ m < window ⌈/⌉ interval,
      (w.round interval (w.now st + window) st m).IsVain (w.now st + window)
  · refine exists_endsAt fun still => ?_
    have gained := clock_gains lasts vain
    have read := w.clock_round interval (w.now st + window) st (window ⌈/⌉ interval)
    have early := still.early
    omega
  · push Not at vain
    obtain ⟨m, earlier, ended⟩ := vain
    obtain ⟨n, v, first, ends⟩ := exists_endsAt ended
    exact ⟨n, v, by omega, ends⟩

end Watch

namespace Instance

variable {κ : Type} [Kernel κ]

def watch (s : Settings) : Watch (Instance × Journal × κ) where
  now st := Kernel.now st.2.2
  look st := ((st.1.awaitRound s st.2.1 st.2.2).1, (st.1.awaitRound s st.2.1 st.2.2).2)
  sleep d st := (st.1, st.2.1, Kernel.sleep d st.2.2)
  clock_look st := st.1.awaitRound_clock s st.2.1 st.2.2
  now_le_look st := st.1.now_le_awaitRound s st.2.1 st.2.2
  now_le_sleep d st := Nat.le_of_lt (Kernel.now_lt_sleep d st.2.2)

/-- What a round is told by a provider that is in the state `i` and is left in the state `i'`:
whether it is well and, if it is not, whether its process has not exited. The clock is read at the
end. -/
structure Observed (s : Settings) (i : Instance) (k : κ) (r : AwaitRound) (i' : Instance) (k' : κ) :
    Prop where
  probed : r.healthy = (i.probe s k).1.healthy
  well : r.healthy = true ↔ i.IsWell s k
  asked : r.healthy = false → r.alive = ((i.probe s k).2.1.isAlive (i.probe s k).2.2).1
  up : r.healthy = false →
    (r.alive = true ↔ ∀ c, (i.probe s k).2.1.child = some c → c.IsUp (i.probe s k).2.2)
  left : (i', k') = if r.healthy then (i.probe s k).2
    else ((i.probe s k).2.1.isAlive (i.probe s k).2.2).2
  clock : r.clock = Kernel.now k'

theorem observed_awaitRound (s : Settings) (i : Instance) (j : Journal) (k : κ) :
    Observed s i k (i.awaitRound s j k).1 (i.awaitRound s j k).2.1 (i.awaitRound s j k).2.2.2 := by
  have well : (i.probe s k).1.healthy = true ↔ i.IsWell s k := healthy_probe
  have up := isAlive_eq_true (i := (i.probe s k).2.1) (k := (i.probe s k).2.2)
  unfold awaitRound
  dsimp only
  cases healthy : (i.probe s k).1.healthy with
  | true =>
    rw [healthy] at well
    exact ⟨healthy.symm, well, nofun, nofun, rfl, rfl⟩
  | false =>
    rw [healthy] at well
    exact ⟨healthy.symm, well, fun _ => rfl, fun _ => up, rfl, rfl⟩

theorem awaits_watch (s : Settings) (deadline : Nat) (i : Instance) (j : Journal) (k : κ) :
    (watch s).Awaits s.probeInterval deadline (i, j, k) (i.awaitUntil s deadline j k).1
      (i.awaitUntil s deadline j k).2 := by
  induction i, j, k using @awaitUntil.induct κ _ s deadline with
  | case1 i j k r i' j' k' round v ended =>
    have looked : (watch s).look (i, j, k) = (r, i', j', k') := by simp only [watch, round]
    rw [awaitUntil_of_round round, ended]
    have shown : (watch s).Awaits s.probeInterval deadline (i, j, k) v
        ((watch s).look (i, j, k)).2 := .ended (by rw [looked]; exact ended)
    rwa [looked] at shown
  | case2 i j k r i' j' k' round goesOn ih =>
    have looked : (watch s).look (i, j, k) = (r, i', j', k') := by simp only [watch, round]
    rw [awaitUntil_of_round round, goesOn]
    refine .resumed (by rw [looked]; exact goesOn) ?_
    rw [Watch.next, looked]
    exact ih

theorem awaits_watch_iff {s : Settings} {i : Instance} {x : World κ} {v : AwaitVerdict}
    {st : Instance × Journal × κ} :
    (watch s).Awaits s.probeInterval (Kernel.now x.kernel + s.probeWindow)
      (i, x.journal, x.kernel) v st ↔ (v, st) = i.awaitHealthy s x.journal x.kernel := by
  have host := awaits_watch s (Kernel.now x.kernel + s.probeWindow) i x.journal x.kernel
  constructor
  · intro awaits
    exact awaits.unique host
  · intro same
    unfold awaitHealthy at same
    rwa [← same] at host

theorem awaitReady_answer (s : Settings) (i : Instance) (x : World κ) :
    (i.awaitReady s x).1.mapError (·.fault.code) =
      (i.awaitHealthy s x.journal x.kernel).1.answer := by
  unfold awaitReady
  dsimp only
  cases (i.awaitHealthy s x.journal x.kernel).1 <;> rfl

end Instance

namespace Watch

variable {σ : Type} {w : Watch σ} {interval deadline : Nat} {st : σ} {v : AwaitVerdict}

theorem exists_awaits_iff :
    (∃ st', w.Awaits interval deadline st v st') ↔
      ∃ n, (w.round interval deadline st n).Shows deadline v ∧
        ∀ m < n, (w.round interval deadline st m).IsVain deadline := by
  constructor
  · rintro ⟨st', awaits⟩
    obtain ⟨n, ⟨shows, vain⟩, -⟩ := awaits_iff.mp awaits
    exact ⟨n, shows, vain⟩
  · rintro ⟨n, shows, vain⟩
    exact ⟨_, awaits_of_endsAt ⟨shows, vain⟩⟩

/-- A wait ends with the first round whose probe passes, which finds the process dead after a probe
that failed, or at whose end the clock has reached the deadline. The first probe is made whatever
the window is, no sleep is too long, and where sleeps last, the intervals that cover the window
bound the number of probes. The host waits in this way: a round of it makes a probe, asks after the
process if the probe fails, and reads the clock. -/
theorem wait_ends_when_due (w : Watch σ) (interval window : Nat) (st : σ) :
    let deadline := w.now st + window
    let round := w.round interval deadline st
    let answers := fun v => ∃ st', w.Awaits interval deadline st v st'
    (answers .healthy ↔
      ∃ n, (round n).healthy = true ∧ ∀ m < n, (round m).IsVain deadline) ∧
    (answers .exited ↔ ∃ n, ((round n).healthy = false ∧ (round n).alive = false) ∧
      ∀ m < n, (round m).IsVain deadline) ∧
    (answers .timedOut ↔ ∃ n, ((round n).healthy = false ∧ (round n).alive = true ∧
      deadline ≤ (round n).clock) ∧ ∀ m < n, (round m).IsVain deadline) ∧
    ((round 0).healthy = true → answers .healthy) ∧
    (∀ n, (round n).IsVain deadline → (round n).pause interval deadline ≤ interval ∧
      (round n).clock + (round n).pause interval deadline ≤ deadline) ∧
    (0 < interval → (∀ d st, w.now st + d ≤ w.now (w.sleep d st)) →
      ∃ n v, n + 1 ≤ window ⌈/⌉ interval + 1 ∧ w.EndsAt interval deadline st n v ∧ answers v) ∧
    ∀ (κ : Type) [Kernel κ] (s : Settings) (i : Instance) (x : World κ),
      (∀ st : Instance × Journal × κ, Instance.Observed s st.1 st.2.2 ((Instance.watch s).look st).1
          ((Instance.watch s).look st).2.1 ((Instance.watch s).look st).2.2.2 ∧
        (Instance.watch s).now st = Kernel.now st.2.2 ∧
        ∀ d, (Instance.watch s).sleep d st = (st.1, st.2.1, Kernel.sleep d st.2.2)) ∧
      (∀ v last, (Instance.watch s).Awaits s.probeInterval (Kernel.now x.kernel + s.probeWindow)
        (i, x.journal, x.kernel) v last ↔ (v, last) = i.awaitHealthy s x.journal x.kernel) ∧
      (i.awaitReady s x).1.mapError (·.fault.code) =
        (i.awaitHealthy s x.journal x.kernel).1.answer := by
  intro deadline round answers
  refine ⟨exists_awaits_iff, exists_awaits_iff, exists_awaits_iff, fun passed => ?_,
    fun n vain => AwaitRound.pause_le vain, fun positive lasts => ?_, fun κ _ s i x => ?_⟩
  · exact exists_awaits_iff.mpr ⟨0, passed, nofun⟩
  · obtain ⟨n, v, bound, ends⟩ := w.exists_endsAt_of_lasting st positive lasts
    exact ⟨n, v, Nat.succ_le_succ bound, ends, _, awaits_of_endsAt ends⟩
  · exact ⟨fun st => ⟨st.1.observed_awaitRound s st.2.1 st.2.2, rfl, fun _ => rfl⟩,
      fun v last => Instance.awaits_watch_iff, i.awaitReady_answer s x⟩

/-- A process that lives and never answers; a sleep takes as long as is asked. -/
def unanswered : Watch Nat where
  now t := t
  look t := (⟨false, true, t⟩, t)
  sleep d t := t + d
  clock_look _ := rfl
  now_le_look t := Nat.le_refl t
  now_le_sleep d t := Nat.le_add_right t d

/-- Where the interval does not divide the window, the last sleep is shorter. A provider in the
network that nobody can reach lets the host wait as long; a process that has exited does not, and
one that is up and connected is taken at once. -/
theorem unanswered_wait_is_timed_out :
    (unanswered.EndsAt 3 7 0 3 .timedOut ∧ 7 ⌈/⌉ 3 + 1 = 4 ∧
      ∃ n v, n + 1 ≤ 7 ⌈/⌉ 3 + 1 ∧ unanswered.EndsAt 3 7 0 n v) ∧
    let s : Settings := { probeWindow := 7, probeInterval := 3 }
    let sleeping : Process :=
      { pid := 7, group := 7, parent := Process.host, handles := [], directory := []
        status := .running (.call (.sleepUntil 1000) fun _ => .exit 0) }
    let near (pid : Nat) : Instance :=
      { id := "near", child := some { pid := pid }, transport := some { kind := .stdio }
        ring := .ofCapacity 10 }
    let remote : Instance :=
      { id := "far", kind := .network, baseUrl := some { host := "away" }, ring := .ofCapacity 10 }
    let w : World System := ⟨{ processes := [sleeping] }, {}, {}⟩
    ((near 7).awaitReady s w).1.mapError (·.fault.code) = .ok () ∧
    ((near 8).awaitReady s w).1.mapError (·.fault.code) = .error "process_exited" ∧
    (remote.awaitReady s w).1.mapError (·.fault.code) = .error "probe_timeout" := by
  refine ⟨⟨⟨⟨rfl, rfl, by decide⟩, fun m earlier => ?_⟩, by decide, ?_⟩, ?_⟩
  · rw [← AwaitRound.verdict?_eq_none_iff]
    have within : m = 0 ∨ m = 1 ∨ m = 2 := by omega
    rcases within with rfl | rfl | rfl <;> rfl
  · have bound := (unanswered.wait_ends_when_due 3 7 0).2.2.2.2.2.1
    obtain ⟨n, v, few, ends, -⟩ := bound (by decide) fun d t => Nat.le_refl (t + d)
    exact ⟨n, v, few, by simpa [unanswered] using ends⟩
  · intro s sleeping near remote w
    have host (i : Instance) (v : AwaitVerdict)
        (ends : ∃ last, (Instance.watch s).Awaits 3 7 (i, w.journal, w.kernel) v last) :
        (i.awaitReady s w).1.mapError (·.fault.code) = v.answer := by
      obtain ⟨-, -, -, -, -, -, hosts⟩ :=
        (Instance.watch s).wait_ends_when_due 3 7 (i, w.journal, w.kernel)
      obtain ⟨-, same, answer⟩ := hosts System s i w
      obtain ⟨last, awaits⟩ := ends
      rw [answer, ← (same v last).mp awaits]
    have waits (i : Instance) :=
      (Instance.watch s).wait_ends_when_due 3 7 (i, w.journal, w.kernel)
    refine ⟨host (near 7) .healthy ((waits _).1.mpr ⟨0, rfl, nofun⟩),
      host (near 8) .exited ((waits _).2.1.mpr ⟨0, ⟨rfl, rfl⟩, nofun⟩),
      host remote .timedOut ((waits _).2.2.1.mpr
        ⟨3, ⟨rfl, rfl, Nat.le_refl 7⟩, fun m earlier => ?_⟩)⟩
    have within : m = 0 ∨ m = 1 ∨ m = 2 := by omega
    rw [← AwaitRound.verdict?_eq_none_iff]
    rcases within with rfl | rfl | rfl <;> rfl

end Watch

end ProviderHost
