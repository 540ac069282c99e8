import ProviderHost.Proofs.Child.Dealing
import ProviderHost.Proofs.Lifecycle.Reports
import ProviderHost.Proofs.Lifecycle.Rounds

/-!
# What an instance does with its child

Watching over an instance only looks at its child: the monitor and the waits send no signal. For
each operation there is one lemma, which says what becomes of the child, what is reported, and
that the journal has no part in it.
-/

namespace ProviderHost.Instance

open Child (Look Deal Led)

variable {δ κ : Type}

/-- Between two states of an instance and of the record, its child was led on by dealings. -/
structure ChildLed (R : Child → List ProcessEntry → Child → Prop) (i : Instance) (r : Recorded κ)
    (i' : Instance) (r' : Recorded κ) : Prop where
  absent : i.child = none → i'.child = none ∧ r'.entries = r.entries
  present : ∀ c, i.child = some c → ∃ c', i'.child = some c' ∧ Led R c r c' r'

namespace ChildLed

variable {R : Child → List ProcessEntry → Child → Prop} {i i' i'' : Instance}
  {r r' r'' : Recorded κ}

theorem same (child : i'.child = i.child) (entries : r'.entries = r.entries) :
    ChildLed R i r i' r' where
  absent none := ⟨child.trans none, entries⟩
  present c present := ⟨c, child.trans present, .refl entries⟩

theorem of_led {c c' : Child} (held : i.child = some c) (held' : i'.child = some c')
    (led : Led R c r c' r') : ChildLed R i r i' r' where
  absent none := by cases held.symm.trans none
  present d present := by
    cases held.symm.trans present
    exact ⟨c', held', led⟩

theorem trans (first : ChildLed R i r i' r') (second : ChildLed R i' r' i'' r'') :
    ChildLed R i r i'' r'' where
  absent none := by
    obtain ⟨none', entries⟩ := first.absent none
    obtain ⟨none'', entries'⟩ := second.absent none'
    exact ⟨none'', entries'.trans entries⟩
  present c present := by
    obtain ⟨c', present', led⟩ := first.present c present
    obtain ⟨c'', present'', led'⟩ := second.present c' present'
    exact ⟨c'', present'', led.trans led'⟩

theorem deals (led : ChildLed Look i r i' r') : ChildLed Deal i r i' r' where
  absent := led.absent
  present c present := by
    obtain ⟨c', present', led⟩ := led.present c present
    exact ⟨c', present', led.deals⟩

end ChildLed

structure Conduct (R : Child → List ProcessEntry → Child → Prop) (P : Report → Prop)
    (i : Instance) (r : Recorded κ) (reports : List Report) (i' : Instance) (r' : Recorded κ) :
    Prop where
  id : i'.id = i.id
  child : ChildLed R i r i' r'
  told : ∀ report ∈ reports, P report

namespace Conduct

variable {R : Child → List ProcessEntry → Child → Prop} {P Q : Report → Prop}
  {i i' i'' : Instance} {r r' r'' : Recorded κ} {first second reports : List Report}

theorem silent (id : i'.id = i.id) (child : ChildLed R i r i' r') : Conduct R P i r [] i' r' :=
  ⟨id, child, by simp⟩

theorem trans (earlier : Conduct R P i r first i' r') (later : Conduct R P i' r' second i'' r'') :
    Conduct R P i r (first ++ second) i'' r'' where
  id := later.id.trans earlier.id
  child := earlier.child.trans later.child
  told report member := (List.mem_append.mp member).elim (earlier.told report) (later.told report)

theorem mono (weaker : ∀ report, P report → Q report) (conduct : Conduct R P i r reports i' r') :
    Conduct R Q i r reports i' r' :=
  ⟨conduct.id, conduct.child, fun report member => weaker report (conduct.told report member)⟩

theorem deals (conduct : Conduct Look P i r reports i' r') : Conduct Deal P i r reports i' r' :=
  ⟨conduct.id, conduct.child.deals, conduct.told⟩

end Conduct

/-! ### Reading and closing -/

variable [Kernel κ]

theorem closeTransport_conduct (i : Instance) (k : Recorded κ) :
    ∃ i' k' reports, (∀ j, i.closeTransport j k = (i', j.tell reports, k')) ∧
      Conduct Look IsDetail i k reports i' k' := by
  unfold closeTransport
  split
  · exact ⟨i, k, [], fun j => rfl, .silent rfl (.same rfl rfl)⟩
  · rename_i t present
    obtain ⟨ring, reports, told, details⟩ :=
      { i with transport := some t.close.1 }.absorb_tells t.close.2
    simp only [told]
    split
    · split
      · exact ⟨_, k, reports, fun j => rfl, rfl, .same rfl rfl, details⟩
      · exact ⟨_, _, reports, fun j => rfl, rfl, .same rfl rfl, details⟩
    · exact ⟨_, k, reports, fun j => rfl, rfl, .same rfl rfl, details⟩

theorem disconnect_conduct (i : Instance) (k : Recorded κ) (files : Files) :
    ∃ i' k' reports, (∀ j, i.disconnect ⟨k, j, files⟩ = (i', ⟨k', j.tell reports, files⟩)) ∧
      Conduct Look IsDetail i k reports i' k' := by
  obtain ⟨i', k', reports, told, conduct⟩ := i.closeTransport_conduct k
  exact ⟨i', k', reports, fun j => by rw [disconnect, told], conduct⟩

theorem readIf_entries (isOpen : Bool) (pid : Nat) (s : Stream) (k : Recorded κ) :
    (if isOpen then Kernel.read pid s k else ([], k)).2.entries = k.entries := by
  split <;> rfl

theorem readLines_conduct (site : Site δ) (i : Instance) (k : Recorded κ) (files : Files) :
    ∃ i' k' reports, (∀ j, i.readLines site ⟨k, j, files⟩ = (i', ⟨k', j.tell reports, files⟩)) ∧
      Conduct Look IsDetail i k reports i' k' := by
  unfold readLines readOutput
  dsimp only
  split
  · rename_i c t child transport
    split
    · exact ⟨i, k, [], fun j => rfl, .silent rfl (.same rfl rfl)⟩
    · have first := readIf_entries t.reader.outOpen c.pid .out k
      generalize (if t.reader.outOpen then Kernel.read c.pid .out k else ([], k)) = read
        at first ⊢
      obtain ⟨outs, k₁⟩ := read
      have second := readIf_entries t.reader.errOpen c.pid .err k₁
      dsimp only
      generalize (if t.reader.errOpen then Kernel.read c.pid .err k₁ else ([], k₁)) = read
        at second ⊢
      obtain ⟨errs, k₂⟩ := read
      obtain ⟨ring, reports, told, details⟩ :=
        { i with transport := some (t.readOnce site.decode outs errs).1 }.absorb_tells
          (t.readOnce site.decode outs errs).2
      refine ⟨{ i with transport := some (t.readOnce site.decode outs errs).1, ring := ring }, k₂,
        reports, fun j => ?_, rfl, .same rfl (second.trans first), details⟩
      dsimp only
      rw [told]
  · exact ⟨i, k, [], fun j => rfl, .silent rfl (.same rfl rfl)⟩

/-! ### Looking -/

theorem isAlive_led (i : Instance) (k : Recorded κ) :
    ChildLed Look i k (i.isAlive k).2.1 (i.isAlive k).2.2 := by
  unfold isAlive
  split
  · exact .same rfl rfl
  · rename_i c held
    exact .of_led held rfl (c.isRunning_looked k).led

theorem probeUrl_entries (s : Settings) (i : Instance) (u : Url) (k : Recorded κ) :
    (i.probeUrl s u k).2.2.entries = k.entries := by
  have passed : (Kernel.healthStatus u s.healthPath s.probeRequestTimeout k).2.entries =
    k.entries := rfl
  unfold probeUrl
  split <;> rename_i answered <;> rw [answered] at passed <;> exact passed

theorem probe_led (s : Settings) (i : Instance) (k : Recorded κ) :
    ChildLed Look i k (i.probe s k).2.1 (i.probe s k).2.2 := by
  have asked := i.isAlive_led k
  have probed (j : Instance) (u : Url) (r : Recorded κ) :
      ChildLed Look j r (j.probeUrl s u r).2.1 (j.probeUrl s u r).2.2 :=
    .same (by rw [probeUrl_frame]) (j.probeUrl_entries s u r)
  unfold probe
  split
  · split
    · rename_i i' k' alive
      rw [alive] at asked
      exact asked
    · rename_i i' k' alive
      rw [alive] at asked
      split
      · exact asked
      · split
        · exact asked
        · exact asked.trans (probed i' _ k')
  · split
    · exact .same rfl rfl
    · exact probed i _ k

theorem isAlive_id (i : Instance) (k : κ) : (i.isAlive k).2.1.id = i.id := by
  obtain ⟨c, asked⟩ := i.isAlive_frame k
  rw [asked]

theorem probe_id (s : Settings) (i : Instance) (k : κ) : (i.probe s k).2.1.id = i.id := by
  obtain ⟨c, probed⟩ := i.probe_frame s k
  rw [probed]

theorem checkAlive_conduct (i : Instance) (k : Recorded κ) (files : Files) :
    ∃ alive i' k', (∀ j, i.checkAlive ⟨k, j, files⟩ = (alive, i', ⟨k', j, files⟩)) ∧
      Conduct Look IsDetail i k [] i' k' :=
  ⟨(i.isAlive k).1, _, _, fun _ => rfl, .silent (i.isAlive_id k) (i.isAlive_led k)⟩

theorem checkHealth_conduct (s : Settings) (i : Instance) (k : Recorded κ) (files : Files) :
    ∃ healthy i' k' reports,
      (∀ j, i.checkHealth s ⟨k, j, files⟩ = (healthy, i', ⟨k', j.tell reports, files⟩)) ∧
      Conduct Look IsDetail i k reports i' k' := by
  refine ⟨(i.probe s k).1.healthy, (i.probe s k).2.1, (i.probe s k).2.2,
    (i.probe s k).1.note.toList.map (Prod.mk .debug), fun j => ?_,
    i.probe_id s k, i.probe_led s k, by simp [IsDetail]⟩
  rw [← Journal.note_eq_tell]
  rfl

/-! ### The monitor and the request to shut down -/

/-- What is reported of an instance before its process is asked to end. -/
inductive Routine (id : Text) : Report → Prop
  | detail (message : Text) : Routine id (.debug, message)
  | change (old new : Lifecycle) : Routine id (.info, changeNotice id old new)
  | exit : Routine id (.warn, "provider " ++ id ++ " exited unexpectedly")
  | dismissal (kind : TransportKind) (reason : Text) :
    Routine id (.warn, kind.name ++ ": shutdown request failed: " ++ reason)

theorem Routine.of_detail {id : Text} {r : Report} (detail : IsDetail r) : Routine id r := by
  obtain ⟨level, message⟩ := r
  cases detail
  exact .detail message

variable [Document δ]

omit [Kernel κ] in
theorem transition_conduct (site : Site δ) (next : Lifecycle) (i : Instance) (k : Recorded κ)
    (files : Files) :
    ∃ files' reports, (∀ j, i.transition site next ⟨k, j, files⟩ =
        ({ i with stage := next }, ⟨k, j.tell reports, files'⟩)) ∧
      Conduct Look (Routine i.id) i k reports { i with stage := next } k := by
  by_cases same : i.stage = next
  · subst same
    refine ⟨files, [], fun j => ?_, .silent rfl (.same rfl rfl)⟩
    rw [transition_eq_self]
    rfl
  · obtain ⟨files', details, told, minor⟩ := transition_tells site same files
    refine ⟨files', _, told k, rfl, .same rfl rfl, fun r member => ?_⟩
    rcases List.mem_cons.mp member with rfl | member
    · exact .change _ _
    · exact .of_detail (minor r member)

theorem monitorStep_conduct (site : Site δ) (i : Instance) (k : Recorded κ) (files : Files) :
    ∃ i' k' files' reports,
      (∀ j, i.monitorStep site ⟨k, j, files⟩ = (i', ⟨k', j.tell reports, files'⟩)) ∧
      Conduct Look (Routine i.id) i k reports i' k' := by
  have kept (i' : Instance) (id : i'.id = i.id) (child : i'.child = i.child) :
      Conduct Look (Routine i.id) i k [] i' k := .silent id (.same child rfl)
  -- Only the phases of looking and probing ask the system for anything.
  cases phase : i.monitor.phase with
  | none | ended =>
    exact ⟨i, k, files, [], fun j => by simp only [monitorStep, phase]; rfl, kept i rfl rfl⟩
  | waiting =>
    exact ⟨i.inPhase (if i.monitor.stopping then .ended else .looking), k, files, [],
      fun j => by simp only [monitorStep, phase]; rfl, kept _ rfl rfl⟩
  | looking =>
    obtain ⟨alive, i', k', asked, conduct⟩ := i.checkAlive_conduct k files
    cases alive with
    | true =>
      refine ⟨i'.inPhase .probing, k', files, [], fun j => ?_, conduct.id, ?_, by simp⟩
      · simp only [monitorStep, phase, asked]
        rfl
      · exact conduct.child.trans (.same rfl rfl)
    | false =>
      refine ⟨i'.inPhase .abandoning, k', files,
        [(.warn, "provider " ++ i.id ++ " exited unexpectedly")], fun j => ?_, conduct.id, ?_, ?_⟩
      · simp only [monitorStep, phase, asked, conduct.id]
        rfl
      · exact conduct.child.trans (.same rfl rfl)
      · simp only [List.mem_singleton, forall_eq]
        exact .exit
  | probing =>
    obtain ⟨healthy, i', k', reports, probed, conduct⟩ :=
      i.checkHealth_conduct site.settings k files
    refine ⟨i'.inPhase (.judging healthy), k', files, reports, fun j => ?_, conduct.id, ?_,
      fun r member => .of_detail (conduct.told r member)⟩
    · simp only [monitorStep, phase, probed]
    · exact conduct.child.trans (.same rfl rfl)
  | judging healthy =>
    cases judged : i.stage.judge? healthy with
    | some next =>
      exact ⟨i.inPhase (.changing next), k, files, [],
        fun j => by simp only [monitorStep, phase, judged]; rfl, kept _ rfl rfl⟩
    | none =>
      exact ⟨i.awaitingRound site.settings ⟨k, {}, files⟩, k, files, [],
        fun j => by simp only [monitorStep, phase, judged]; rfl, kept _ rfl rfl⟩
  | changing next =>
    obtain ⟨files', reports, changed, conduct⟩ := i.transition_conduct site next k files
    refine ⟨{ i with stage := next }.awaitingRound site.settings ⟨k, {}, files⟩, k, files',
      reports, fun j => ?_, rfl, .same rfl rfl, conduct.told⟩
    simp only [monitorStep, phase, changed]
    rfl
  | abandoning =>
    obtain ⟨i', k', reports, closed, conduct⟩ := i.disconnect_conduct k files
    refine ⟨i'.inPhase .ending, k', files, reports, fun j => ?_, conduct.id, ?_,
      fun r member => .of_detail (conduct.told r member)⟩
    · simp only [monitorStep, phase, closed]
    · exact conduct.child.trans (.same rfl rfl)
  | ending =>
    obtain ⟨files', reports, changed, conduct⟩ := i.transition_conduct site .stopped k files
    refine ⟨{ i with stage := .stopped }.inPhase .ended, k, files', reports, fun j => ?_, rfl,
      .same rfl rfl, conduct.told⟩
    simp only [monitorStep, phase, changed]

theorem monitorSteps_conduct (site : Site δ) (n : Nat) (i : Instance) (k : Recorded κ)
    (files : Files) :
    ∃ i' k' files' reports,
      (∀ j, i.monitorSteps site n ⟨k, j, files⟩ = (i', ⟨k', j.tell reports, files'⟩)) ∧
      Conduct Look (Routine i.id) i k reports i' k' := by
  induction n generalizing i k files with
  | zero => exact ⟨i, k, files, [], fun j => rfl, .silent rfl (.same rfl rfl)⟩
  | succ n ih =>
    by_cases rests : i.monitor.phase.isResting
    · refine ⟨i, k, files, [], fun j => ?_, .silent rfl (.same rfl rfl)⟩
      rw [monitorSteps, if_pos rests]
      rfl
    · obtain ⟨i₁, k₁, files₁, first, stepped, conduct⟩ := i.monitorStep_conduct site k files
      obtain ⟨i₂, k₂, files₂, rest, later, conduct'⟩ := ih i₁ k₁ files₁
      rw [conduct.id] at conduct'
      refine ⟨i₂, k₂, files₂, first ++ rest, fun j => ?_, conduct.trans conduct'⟩
      rw [monitorSteps, if_neg rests, stepped, Journal.tell_append]
      exact later _

theorem joinMonitor_conduct (site : Site δ) (i : Instance) (k : Recorded κ) (files : Files) :
    ∃ i' k' files' reports,
      (∀ j, i.joinMonitor site ⟨k, j, files⟩ = (i', ⟨k', j.tell reports, files'⟩)) ∧
      Conduct Look (Routine i.id) i k reports i' k' := by
  obtain ⟨i₁, k₁, files₁, round, finished, conduct⟩ :=
    { i with monitor := { i.monitor with stopping := true } }.monitorSteps_conduct site
      roundLength k files
  obtain ⟨i₂, k₂, files₂, last, stepped, conduct'⟩ := i₁.monitorStep_conduct site k₁ files₁
  rw [conduct.id] at conduct'
  have asked : Conduct Look (Routine i.id) i k []
    { i with monitor := { i.monitor with stopping := true } } k := .silent rfl (.same rfl rfl)
  refine ⟨i₂, k₂, files₂, round ++ last, fun j => ?_, (asked.trans conduct).trans conduct'⟩
  rw [joinMonitor, finishRound, finished, Journal.tell_append]
  exact stepped _

omit [Document δ] [Kernel κ] in
theorem reportDismissal_tells (i : Instance) (f : Fault) (k : κ) (files : Files) :
    ∃ reports, (∀ j, reportDismissal i f ⟨k, j, files⟩ = ⟨k, j.tell reports, files⟩) ∧
      ∀ r ∈ reports, Routine i.id r := by
  let failed : Report := (.debug, "graceful shutdown of " ++ i.id ++ " failed: " ++ f.message)
  cases transport : i.transport with
  | none =>
    refine ⟨[failed], fun j => by rw [reportDismissal, transport]; rfl, fun r member => ?_⟩
    rw [List.mem_singleton.mp member]
    exact .detail _
  | some t =>
    refine ⟨[(.warn, t.kind.name ++ ": shutdown request failed: " ++ f.message), failed],
      fun j => by rw [reportDismissal, transport]; rfl, fun r member => ?_⟩
    rcases List.mem_cons.mp member with rfl | member
    · exact .dismissal _ _
    · rw [List.mem_singleton.mp member]
      exact .detail _

theorem dismiss_conduct (s : Settings) (i : Instance) (k : Recorded κ) (files : Files) :
    ∃ i' k' reports, (∀ j, i.dismiss s ⟨k, j, files⟩ = (i', ⟨k', j.tell reports, files⟩)) ∧
      Conduct Look (Routine i.id) i k reports i' k' := by
  have kept : Conduct Look (Routine i.id) i k [] i k := .silent rfl (.same rfl rfl)
  cases known : i.peer? with
  | none => exact ⟨i, k, [], fun j => by simp only [dismiss, known]; rfl, kept⟩
  | some peer =>
    by_cases greeted : i.isGreeted
    · let i' := { i with
        transport := i.transport.map fun (t : Transport) => { t with greeted := false } }
      have passed : (Kernel.dismiss peer s.shutdownTimeout k).2.entries = k.entries := rfl
      cases answered : Kernel.dismiss peer s.shutdownTimeout k with
      | mk answer k' =>
        rw [answered] at passed
        cases answer with
        | ok =>
          refine ⟨i', k', [], fun j => ?_, .silent rfl (.same rfl passed)⟩
          simp only [dismiss, known, if_pos greeted, answered]
          rfl
        | error f =>
          obtain ⟨reports, told, routine⟩ := i.reportDismissal_tells f k' files
          refine ⟨i', k', reports, fun j => ?_, rfl, .same rfl passed, routine⟩
          simp only [dismiss, known, if_pos greeted, answered, told]
          rfl
    · refine ⟨i, k, [], fun j => ?_, kept⟩
      simp only [dismiss, known]
      rw [if_neg greeted]
      rfl

end ProviderHost.Instance
