import ProviderHost.Proofs.Transport.Disconnection
import ProviderHost.Proofs.Transport.Waiters

/-!
# The loss of the peer

A transport that has lost its peer stays lost, and nobody is left waiting on it, whatever the order
in which its reader, those who close it and its callers take their steps.
-/

namespace ProviderHost

/-- What a demand is answered if the provider was not greeted. -/
def Demand.tooEarly? : Demand → Option TransportFault
  | greeting | farewell => none
  | listing => some .listedTooEarly
  | calling _ _ => some .calledTooEarly

theorem Demand.answerUnsent?_of_tooEarly {d : Demand} {f : TransportFault}
    (early : d.tooEarly? = some f) (t : Transport) :
    d.answerUnsent? t = if t.greeted then none else some (.error f.fault) := by
  cases d with
  | greeting | farewell => cases early
  | listing =>
    cases early
    unfold answerUnsent? Transport.admitListing
    cases t.greeted <;> rfl
  | calling tool arguments =>
    cases early
    unfold answerUnsent? Transport.admitCall
    cases t.greeted <;> rfl

/-- Whether a step may begin the loss of the peer. -/
def WireEvent.mayLose : WireEvent → Bool
  | drain out _ => out.ended
  | close => true
  | _ => false

namespace Wire

variable {codec : Codec} {s : Settings} {w y z : Wire} {e : WireEvent}

/-! ### Greetings -/

def HasMet (w : Wire) : Prop :=
  ∃ (n : Nat) (answer : Demand.Answer), w.calls[n]? = some ⟨.greeting, .finished (.ok answer)⟩

theorem HasMet.step (met : w.HasMet) (stepped : w.step codec s e = some y) : y.HasMet := by
  obtain ⟨n, answer, present⟩ := met
  exact ⟨n, answer, finished_step stepped present⟩

/-- What needs a greeting is answered that it comes too early until one has succeeded. -/
structure Introduced (w : Wire) : Prop where
  greeted : w.transport.greeted → w.HasMet
  early : ∀ {n : Nat} {d : Demand} {stage : Stage} {f : TransportFault},
    w.calls[n]? = some ⟨d, stage⟩ → d.tooEarly? = some f →
      stage = .asking ∨ stage = .finished (.error f.fault) ∨ w.HasMet

theorem opening_introduced (outOpen errOpen : Bool) : (opening outOpen errOpen).Introduced where
  greeted := by rintro ⟨⟩
  early present := by cases present

theorem act_greeted {stage next : Stage} {d : Demand}
    (follows : stage.next? codec s d w = some next)
    (greeted : (stage.act codec d w).transport.greeted) :
    w.transport.greeted ∨ d = .greeting ∧ ∃ answer, next = .finished (.ok answer) := by
  cases stage with
  | answered result =>
    cases follows
    unfold Stage.act at greeted
    dsimp only at greeted
    split at greeted
    · rename_i read
      refine .inr ⟨rfl, ?_⟩
      rw [Stage.after, read]
      exact ⟨_, rfl⟩
    · exact .inl greeted
  | forgetting => cases greeted
  | _ => exact .inl greeted

theorem greeted_step (stepped : w.step codec s e = some y) (greeted : y.transport.greeted) :
    w.transport.greeted ∨ y.HasMet := by
  cases e with
  | read | drain | close | closing =>
    rw [(byThread stepped rfl).greeted] at greeted
    exact .inl greeted
  | ask d =>
    cases stepped
    exact .inl greeted
  | advance n =>
    obtain ⟨d, stage, next, before, follows, rfl⟩ := step_advance_eq_some.mp stepped
    rcases act_greeted follows greeted with already | ⟨rfl, answer, rfl⟩
    · exact .inl already
    · refine .inr ⟨n, answer, ?_⟩
      simp only [put, act_calls, List.getElem?_set, if_true]
      rw [if_pos (List.getElem?_eq_some_iff.mp before).1]
  | send n failure =>
    obtain ⟨d, stage, next, -, -, rfl⟩ := exists_of_step_send stepped
    exact .inl greeted

theorem step_introduced (introduced : w.Introduced) (stepped : w.step codec s e = some y) :
    y.Introduced where
  greeted greeted := by
    rcases greeted_step stepped greeted with already | met
    · exact (introduced.greeted already).step stepped
    · exact met
  early {n d stage f} present early := by
    cases became stepped present with
    | same _ before =>
      rcases introduced.early before early with asking | answered | met
      · exact .inl asking
      · exact .inr (.inl answered)
      · exact .inr (.inr (met.step stepped))
    | asked => exact .inl rfl
    | @advanced _ stage next before follows =>
      rcases introduced.early before early with rfl | rfl | met
      · rw [Stage.next?, d.answerUnsent?_of_tooEarly early] at follows
        cases greeted : w.transport.greeted with
        | true => exact .inr (.inr ((introduced.greeted greeted).step stepped))
        | false =>
          rw [greeted] at follows
          cases follows
          exact .inr (.inl rfl)
      · cases follows
      · exact .inr (.inr (met.step stepped))
    | @sent _ stage next failure before follows =>
      rcases introduced.early before early with rfl | rfl | met
      · cases follows
      · cases follows
      · exact .inr (.inr (met.step stepped))

/-! ### Callers without a peer -/

def Stage.IsTurnedAway : Stage → Prop
  | asking | connecting => True
  | answered (.error f) | finished (.error f) => f = (TransportFault.notConnected .stdio).fault
  | _ => False

/-- Whether a caller, if it is there and wants to greet the provider, is turned away. -/
def TurnsAway (n : Nat) (w : Wire) : Prop :=
  ∀ stage, w.calls[n]? = some ⟨.greeting, stage⟩ → stage.IsTurnedAway

theorem isTurnedAway_next {stage next : Stage} (kind : w.transport.kind = .stdio)
    (lost : w.transport.connected = false) (away : stage.IsTurnedAway)
    (follows : stage.next? codec s .greeting w = some next) : next.IsTurnedAway := by
  cases stage with
  | asking =>
    cases follows
    exact trivial
  | connecting =>
    have refused : w.transport.admitMessage = .error (.notConnected .stdio) := by
      rw [Transport.admitMessage, lost, kind]
      rfl
    rw [Stage.next?, refused] at follows
    cases follows
    rfl
  | answered result =>
    cases result with
    | error f =>
      obtain rfl : f = (TransportFault.notConnected .stdio).fault := away
      cases follows
      rfl
    | ok payload => exact absurd away id
  | finished => cases follows
  | _ => exact absurd away id

theorem turnsAway_step {n : Nat} (ordered : w.Ordered) (lost : w.transport.connected = false)
    (away : w.TurnsAway n) (stepped : w.step codec s e = some y) : y.TurnsAway n := by
  intro stage present
  cases became stepped present with
  | same _ before => exact away stage before
  | asked => exact trivial
  | advanced before follows =>
    exact isTurnedAway_next ordered.kind lost (away _ before) follows
  | @sent _ stage next failure before follows =>
    have had := away _ before
    cases stage with
    | sending | notifying => exact absurd had id
    | _ => cases follows

theorem step_advance {n : Nat} {d : Demand} {stage next : Stage}
    (present : w.calls[n]? = some ⟨d, stage⟩) (follows : stage.next? codec s d w = some next) :
    ∃ y, w.step codec s (.advance n) = some y ∧ y.calls[n]? = some ⟨d, next⟩ ∧
      y.transport = (stage.act codec d w).transport := by
  refine ⟨(stage.act codec d w).put n ⟨d, stage⟩ next, ?_, ?_, rfl⟩
  · exact step_advance_eq_some.mpr ⟨d, stage, next, present, follows, rfl⟩
  · have bound := (List.getElem?_eq_some_iff.mp present).1
    simp [put, act_calls, bound]

theorem step_ask (d : Demand) :
    ∃ y, w.step codec s (.ask d) = some y ∧ y.calls[w.calls.length]? = some ⟨d, .asking⟩ ∧
      y.transport = w.transport :=
  ⟨_, rfl, List.getElem?_concat_length, rfl⟩

/-- Who greets without a peer is refused at once. -/
theorem greeting_refused (kind : w.transport.kind = .stdio) (lost : w.transport.connected = false) :
    let n := w.calls.length
    ∃ y, w.run codec s [.ask .greeting, .advance n, .advance n, .advance n] = some y ∧
      y.calls[n]? =
        some ⟨.greeting, .finished (.error (TransportFault.notConnected .stdio).fault)⟩ := by
  intro n
  obtain ⟨w₁, asked, present₁, same₁⟩ := @step_ask codec s w .greeting
  obtain ⟨w₂, advanced₂, present₂, same₂⟩ :=
    @step_advance codec s w₁ n .greeting .asking .connecting present₁ rfl
  have refused : w₂.transport.admitMessage = .error (.notConnected .stdio) := by
    rw [same₂.trans same₁, Transport.admitMessage, lost, kind]
    rfl
  have answered : Stage.next? codec s .greeting w₂ .connecting =
      some (.answered (.error (TransportFault.notConnected .stdio).fault)) := by
    rw [Stage.next?, refused]
  obtain ⟨w₃, advanced₃, present₃, -⟩ := step_advance present₂ answered
  obtain ⟨w₄, advanced₄, present₄, -⟩ := @step_advance codec s w₃ n .greeting _ _ present₃ rfl
  refine ⟨w₄, ?_, present₄⟩
  simp only [run_cons, n, asked, advanced₂, advanced₃, advanced₄, Option.bind_some]
  rfl

theorem early_refused {d : Demand} {f : TransportFault} (early : d.tooEarly? = some f)
    (ungreeted : w.transport.greeted = false) :
    let n := w.calls.length
    ∃ y, w.run codec s [.ask d, .advance n] = some y ∧
      y.calls[n]? = some ⟨d, .finished (.error f.fault)⟩ := by
  intro n
  obtain ⟨w₁, asked, present₁, same₁⟩ := @step_ask codec s w d
  have follows : Stage.next? codec s d w₁ .asking = some (.finished (.error f.fault)) := by
    rw [Stage.next?, d.answerUnsent?_of_tooEarly early, same₁, ungreeted]
    rfl
  obtain ⟨w₂, advanced₂, present₂, -⟩ := step_advance present₁ follows
  refine ⟨w₂, ?_, present₂⟩
  simp only [run_cons, n, asked, advanced₂, Option.bind_some]
  rfl

/-! ### The beginning of the loss -/

/-- Something has begun that takes the connection down. -/
def IsLosing (w : Wire) : Prop := w.phase.meetsEnd ∨ w.ended ∨ w.transport.closed

theorem HasLost.isLosing (lost : w.HasLost) : w.IsLosing := by
  rcases lost with ⟨ended, -⟩ | ⟨closed, -⟩
  · exact .inr (.inl ended)
  · exact .inr (.inr closed)

theorem isLosing_read (ordered : w.Ordered) (stepped : w.read codec = some y) :
    y.IsLosing ↔ w.IsLosing := by
  cases readStep stepped with
  | steady steady meets => rw [IsLosing, IsLosing, meets, steady.ended, steady.closed]
  | finishing _ _ phase => exact iff_of_true (.inr (.inl rfl)) (.inl (by rw [phase]; rfl))
  | disconnecting _ phase =>
    have ended := ordered.losing (.inl phase)
    exact iff_of_true (.inr (.inl ended)) (.inr (.inl ended))
  | refusing phase =>
    have ended := ordered.losing (.inr phase)
    exact iff_of_true (.inr (.inl ended)) (.inr (.inl ended))

def HasOutput (w : Wire) : Prop := w.transport.reader.outOpen ∨ w.ended

/-- The loss begins when an end of standard output is read, or when the transport is closed. -/
theorem isLosing_step (ordered : w.Ordered) (stepped : w.step codec s e = some y) :
    (y.IsLosing → w.IsLosing ∨ e.mayLose) ∧
      (w.HasOutput → w.IsLosing ∨ e.mayLose → y.IsLosing) := by
  cases e with
  | read => simp [isLosing_read ordered stepped, WireEvent.mayLose]
  | ask | advance | send =>
    have same := sameThreads_step stepped rfl
    simp [IsLosing, same.phase, same.ended, same.closed, WireEvent.mayLose]
  | closing =>
    obtain ⟨before, after⟩ := (closingStep stepped).closed ordered
    exact ⟨fun _ => .inl (.inr (.inr before)), fun _ _ => .inr (.inr after)⟩
  | close =>
    refine ⟨fun _ => .inr rfl, fun _ _ => .inr (.inr ?_)⟩
    rcases eq_of_close stepped with ⟨closed, rfl⟩ | ⟨-, -, rfl⟩
    · exact closed
    · rfl
  | drain out err =>
    obtain ⟨steady, quiet, meets⟩ := drain_steady stepped
    rw [IsLosing, IsLosing, HasOutput, quiet, meets, steady.ended, steady.closed]
    have ends : (WireEvent.drain out err).mayLose = out.ended := rfl
    simp only [Bool.and_eq_true, ends]
    grind

theorem hasOutput_step (opened : w.HasOutput) (stepped : w.step codec s e = some y) :
    y.HasOutput := by
  unfold HasOutput at *
  cases e with
  | read =>
    cases readStep stepped with
    | steady steady =>
      rw [steady.outOpen, steady.ended]
      exact opened
    | finishing => exact .inr rfl
    | disconnecting | refusing => exact opened
  | ask | advance | send =>
    have same := sameThreads_step stepped rfl
    rw [same.reader, same.ended]
    exact opened
  | drain out err =>
    obtain ⟨steady, -⟩ := drain_steady stepped
    rw [steady.outOpen, steady.ended]
    exact opened
  | close => rcases eq_of_close stepped with ⟨-, rfl⟩ | ⟨-, -, rfl⟩ <;> exact opened
  | closing => cases closingStep stepped <;> exact opened

theorem isLosing_run {events : List WireEvent} (ordered : w.Ordered)
    (ran : w.run codec s events = some y) :
    (y.IsLosing → w.IsLosing ∨ ∃ e ∈ events, e.mayLose) ∧
      (w.HasOutput → (w.IsLosing ∨ ∃ e ∈ events, e.mayLose) → y.IsLosing) := by
  induction events generalizing w with
  | nil =>
    cases ran
    simp
  | cons e events ih =>
    rw [run_cons] at ran
    obtain ⟨x, stepped, ran⟩ := Option.bind_eq_some_iff.mp ran
    obtain ⟨begun, begins⟩ := isLosing_step ordered stepped
    obtain ⟨begunLater, beginsLater⟩ := ih (step_ordered ordered stepped) ran
    simp only [List.mem_cons, exists_eq_or_imp]
    refine ⟨fun losing => ?_, fun opened losing => ?_⟩
    · rcases begunLater losing with now | later
      · rcases begun now with before | here
        · exact .inl before
        · exact .inr (.inl here)
      · exact .inr (.inr later)
    · refine beginsLater (hasOutput_step opened stepped) ?_
      rcases losing with before | here | later
      · exact .inl (begins opened (.inl before))
      · exact .inl (begins opened (.inr here))
      · exact .inr later

/-- One thread takes the connection down when it takes some more steps, without the others. -/
def IsAboutToLose (codec : Codec) (s : Settings) (w : Wire) : Prop :=
  ∃ thread ∈ [WireEvent.read, .closing], ∃ (k : Nat) (y : Wire),
    w.run codec s (List.replicate k thread) = some y ∧ y.transport.connected = false

/-- The reader goes through the lines that it has read, and then it meets the end behind them. -/
theorem reads_meeting (meets : w.phase.meetsEnd) :
    ∃ (k : Nat) (y : Wire),
      w.run codec s (List.replicate k .read) = some y ∧ y.transport.connected = false := by
  have finishes {w : Wire} (phase : w.phase = .finishing) :
      ∃ y, w.run codec s [.read, .read] = some y ∧ y.transport.connected = false := by
    simp only [run_cons, step, read, phase, Option.bind_some]
    exact ⟨_, rfl, rfl⟩
  cases phase : w.phase with
  | finishing => exact ⟨2, finishes phase⟩
  | handing lines errLines ended =>
    rw [phase] at meets
    obtain rfl : ended = true := meets
    -- Every step hands on one line, and nothing the lines say can keep the reader from the end.
    induction lines generalizing w with
    | nil =>
      obtain ⟨x, stepped, atEnd⟩ : ∃ x, w.step codec s .read = some x ∧ x.phase = .finishing := by
        simp only [step, read, phase]
        exact ⟨_, rfl, rfl⟩
      obtain ⟨y, ran, lost⟩ := finishes atEnd
      refine ⟨3, y, ?_, lost⟩
      rw [List.replicate_succ, run_cons, stepped]
      exact ran
    | cons line lines ih =>
      obtain ⟨x, stepped, left⟩ :
          ∃ x, w.step codec s .read = some x ∧ x.phase = .handing lines errLines true := by
        simp only [step, read, phase]
        exact ⟨_, rfl, rfl⟩
      obtain ⟨k, y, ran, lost⟩ := ih left
      refine ⟨k + 1, y, ?_, lost⟩
      rw [List.replicate_succ, run_cons, stepped]
      exact ran
  | looking | draining | disconnecting | refusing | leaving | gone =>
    rw [phase] at meets
    cases meets

theorem IsLosing.isAboutToLose (ordered : w.Ordered) (losing : w.IsLosing) :
    w.IsAboutToLose codec s := by
  have already (lost : w.HasLost) : w.IsAboutToLose codec s :=
    ⟨.read, List.mem_cons_self, 0, w, rfl, ordered.lost.mpr lost⟩
  rcases losing with meets | ended | closed
  · exact ⟨.read, List.mem_cons_self, reads_meeting meets⟩
  · by_cases phase : w.phase = .disconnecting
    · refine ⟨.read, List.mem_cons_self, 1, ?_⟩
      simp only [List.replicate_one, run_cons, step, read, phase, Option.bind_some]
      exact ⟨_, rfl, rfl⟩
    · exact already (.inl ⟨ended, phase⟩)
  · by_cases closer : w.closer = some .disconnecting
    · refine ⟨.closing, List.mem_cons_of_mem _ List.mem_cons_self, 1, ?_⟩
      simp only [List.replicate_one, run_cons, step, goOnClosing, closer, Option.bind_some]
      exact ⟨_, rfl, rfl⟩
    · exact already (.inr ⟨closed, closer⟩)

/-! ### Every state that is reached -/

/-- What holds of a transport after any steps of its threads. -/
structure Sound (w : Wire) : Prop where
  ordered : w.Ordered
  settled : w.IsSettled
  held : w.Held
  introduced : w.Introduced

theorem opening_sound (outOpen errOpen : Bool) : (opening outOpen errOpen).Sound where
  ordered := opening_ordered outOpen errOpen
  settled := by rintro ⟨⟩
  held := opening_held outOpen errOpen
  introduced := opening_introduced outOpen errOpen

theorem step_sound (sound : w.Sound) (stepped : w.step codec s e = some y) : y.Sound where
  ordered := step_ordered sound.ordered stepped
  settled := step_settled sound.settled stepped
  held := step_held sound.held stepped
  introduced := step_introduced sound.introduced stepped

structure Gone (n : Nat) (w : Wire) : Prop where
  ordered : w.Ordered
  lost : w.transport.connected = false
  away : w.TurnsAway n

theorem step_gone {n : Nat} (gone : w.Gone n) (stepped : w.step codec s e = some y) : y.Gone n where
  ordered := step_ordered gone.ordered stepped
  lost := connected_step stepped gone.lost
  away := turnsAway_step gone.ordered gone.lost gone.away stepped

theorem closings_kind (ordered : w.Ordered) (events : List WireEvent) :
    ∀ reason ∈ w.closings codec s events,
      reason = .endedByProvider ∨ reason = .closedByHost .stdio := by
  induction events generalizing w with
  | nil => simp [closings]
  | cons e events ih =>
    intro reason member
    rw [closings, List.mem_append] at member
    rcases member with now | later
    · rw [Option.mem_toList] at now
      cases e with
      | read =>
        unfold closing? at now
        dsimp only at now
        split at now <;> cases now
        exact .inl rfl
      | closing =>
        unfold closing? at now
        dsimp only at now
        split at now <;> cases now
        rw [ordered.kind]
        exact .inr rfl
      | drain | close | ask | advance | send => cases now
    · cases stepped : w.step codec s e with
      | none =>
        rw [stepped] at later
        cases later
      | some y =>
        rw [stepped] at later
        exact ih (step_ordered ordered stepped) reason later

section Reached

variable {outOpen errOpen : Bool} {before later : List WireEvent}

theorem reached_sound (reached : (opening outOpen errOpen).run codec s before = some w) :
    w.Sound :=
  run_preserves step_sound (opening_sound outOpen errOpen) reached

theorem reached_isLosing (reached : (opening outOpen errOpen).run codec s before = some w) :
    (w.IsLosing → ∃ e ∈ before, e.mayLose) ∧
      (outOpen → (∃ e ∈ before, e.mayLose) → w.IsLosing) := by
  obtain ⟨begun, begins⟩ := isLosing_run (opening_ordered outOpen errOpen) reached
  have quiet : ¬ (opening outOpen errOpen).IsLosing := by
    rintro (h | h | h) <;> cases h
  exact ⟨fun losing => (begun losing).resolve_left quiet,
    fun isOpen began => begins (.inl isOpen) (.inr began)⟩

theorem reached_final (reached : (opening outOpen errOpen).run codec s before = some w)
    (processed : w.IsProcessed) :
    ∃ reason, ((opening outOpen errOpen).closings codec s before).head? = some reason ∧
      (reason = .endedByProvider ∨ reason = .closedByHost .stdio) ∧
      Correlator.Final reason.fault { correlator := w.transport.requests } := by
  have sound := reached_sound reached
  have refused := sound.ordered.processed processed
  have closed : w.transport.requests.closed =
      ((opening outOpen errOpen).closings codec s before).head?.map TransportFault.fault :=
    closed_run reached
  rw [closed] at refused
  obtain ⟨reason, first⟩ := Option.isSome_iff_exists.mp (Option.isSome_map.symm.trans refused)
  rw [first] at closed
  refine ⟨reason, first, ?_, closed, sound.settled (by rw [closed]; rfl)⟩
  exact closings_kind (opening_ordered outOpen errOpen) before reason (List.mem_of_head? first)

theorem run_connected (ran : w.run codec s later = some z) (lost : w.transport.connected = false) :
    z.transport.connected = false :=
  run_preserves (P := fun w => w.transport.connected = false)
    (fun lost stepped => connected_step stepped lost) lost ran

theorem run_final {reason : Fault} (ran : w.run codec s later = some z)
    (final : Correlator.Final reason { correlator := w.transport.requests }) :
    Correlator.Final reason { correlator := z.transport.requests } :=
  run_preserves (P := fun w => Correlator.Final reason { correlator := w.transport.requests })
    step_final final ran

end Reached

/-- A transport that has lost its peer stays lost, and strands nobody. -/
theorem lost_peer_stays_lost (codec : Codec) (s : Settings) {outOpen errOpen : Bool}
    {before later : List WireEvent} {w z : Wire}
    (reached : (opening outOpen errOpen).run codec s before = some w)
    (goesOn : w.run codec s later = some z) :
    -- The connection goes after an end of standard output or a closing, and for good.
    (outOpen → (w.IsLosing ↔ ∃ e ∈ before, e.mayLose)) ∧
    (w.IsLosing → w.IsAboutToLose codec s) ∧
    (w.transport.connected = false ↔ w.HasLost) ∧
    (w.transport.connected = false → z.transport.connected = false) ∧
    -- From then on whoever greets the provider is refused.
    (w.transport.connected = false →
      (∀ n : Nat, (∀ call, w.calls[n]? = some call →
        call.stage = .asking ∨ call.stage = .connecting) → z.TurnsAway n) ∧
      ∃ y, z.run codec s
          [.ask .greeting, .advance z.calls.length, .advance z.calls.length,
            .advance z.calls.length] = some y ∧
        y.calls[z.calls.length]? =
          some ⟨.greeting, .finished (.error (TransportFault.notConnected .stdio).fault)⟩) ∧
    -- Once an end is processed every request is completed, and new ones are refused.
    (w.IsProcessed →
      z.transport.requests.Settled ∧
      (∀ (n : Nat) (d : Demand) (id : Int), z.calls[n]? = some ⟨d, .asleep id⟩ →
        ∃ outcome, z.transport.requests.slot? id = some (some outcome)) ∧
      ∃ reason, ((opening outOpen errOpen).closings codec s before).head? = some reason ∧
        (reason = .endedByProvider ∨ reason = .closedByHost .stdio) ∧
        z.transport.requests.closed = some reason.fault ∧
        ∀ id, z.transport.requests.register id =
          (.error (.given reason.fault), z.transport.requests)) ∧
    -- The end of standard error alone changes none of this, nor does a second closing.
    ((∀ e ∈ before, e.mayLose = false) →
      w.transport.connected = true ∧ w.transport.requests.closed = none) ∧
    (w.transport.closed →
      w.step codec s .close = if w.closer = none then some w else none) ∧
    -- Tools are out of reach until a greeting has succeeded.
    (¬ w.HasMet →
      w.transport.greeted = false ∧
      ∀ (d : Demand) (f : TransportFault), d.tooEarly? = some f →
        (∀ (n : Nat) (stage : Stage), w.calls[n]? = some ⟨d, stage⟩ →
          stage = .asking ∨ stage = .finished (.error f.fault)) ∧
        ∃ y, w.run codec s [.ask d, .advance w.calls.length] = some y ∧
          y.calls[w.calls.length]? = some ⟨d, .finished (.error f.fault)⟩) := by
  have soundW := reached_sound reached
  have soundZ : z.Sound := run_preserves step_sound soundW goesOn
  obtain ⟨begun, begins⟩ := reached_isLosing reached
  refine ⟨fun isOpen => ⟨begun, begins isOpen⟩, fun losing => losing.isAboutToLose soundW.ordered,
    soundW.ordered.lost, run_connected goesOn, fun lost => ⟨fun n asked => ?_, ?_⟩,
    fun processed => ?_, fun harmless => ?_, fun closed => ?_, fun unmet => ?_⟩
  · have away : w.TurnsAway n := by
      intro stage present
      rcases asked _ present with rfl | rfl <;> exact trivial
    exact (run_preserves step_gone ⟨soundW.ordered, lost, away⟩ goesOn).away
  · exact greeting_refused soundZ.ordered.kind (run_connected goesOn lost)
  · obtain ⟨reason, first, kind, finalW⟩ := reached_final reached processed
    have final := run_final goesOn finalW
    have closed : z.transport.requests.closed = some reason.fault := final.closed
    refine ⟨final.settled, fun n d id asleep => ?_, reason, first, kind, closed, fun id => ?_⟩
    · obtain ⟨o, slot⟩ := soundZ.held.slot? asleep
      obtain ⟨outcome, rfl⟩ :=
        Option.isSome_iff_exists.mp (Correlator.isSome_of_slot final.settled slot)
      exact ⟨outcome, slot⟩
    · rw [Correlator.register, closed]
  · have kept : ¬ w.HasLost := fun lost => by
      obtain ⟨e, member, may⟩ := begun lost.isLosing
      rw [harmless e member] at may
      cases may
    refine ⟨?_, ?_⟩
    · rw [← Bool.not_eq_false]
      exact fun lost => kept (soundW.ordered.lost.mp lost)
    · rw [← Option.not_isSome_iff_eq_none]
      exact fun refused => kept (soundW.ordered.refused refused)
  · rw [step, close]
    cases w.closer with
    | none => simp [closed]
    | some => simp
  · have ungreeted : w.transport.greeted = false := by
      rw [← Bool.not_eq_true]
      exact fun greeted => unmet (soundW.introduced.greeted greeted)
    refine ⟨ungreeted, fun d f early => ⟨fun n stage present => ?_, early_refused early ungreeted⟩⟩
    rcases soundW.introduced.early present early with asking | answered | met
    · exact .inl asking
    · exact .inr answered
    · exact absurd met unmet

/-- Standard output ends while a greeting is under way, and the host closes the transport while the
reader is at it. The provider comes first, and its end is what the caller is told. -/
theorem both_ends_at_once :
    let codec : Codec :=
      { frame := fun _ => .noise
        result := fun _ payload => .ok payload
        greeting? := fun _ => none
        tools? := fun _ => none }
    let before : List WireEvent :=
      [.ask .greeting, .advance 0, .advance 0, .advance 0, .advance 0, .send 0 none, .advance 0,
        .read, .close, .drain ⟨"no message", true⟩ ⟨"warning\n", false⟩, .closing, .closing, .read,
        .read, .closing, .read, .read, .read, .read, .closing, .closing]
    let later : List WireEvent := [.advance 0, .advance 0]
    ∃ w z, (opening true true).run codec {} before = some w ∧ w.run codec {} later = some z ∧
      z.transport.connected = false ∧
      z.transport.requests.closed = some TransportFault.endedByProvider.fault ∧
      z.calls[0]? = some ⟨.greeting, .finished (.error TransportFault.endedByProvider.fault)⟩ := by
  intro codec before later
  obtain ⟨w, z, reached, goesOn, lost, processed, answered⟩ :
      ∃ w z, (opening true true).run codec {} before = some w ∧ w.run codec {} later = some z ∧
        w.transport.connected = false ∧ w.IsProcessed ∧
        z.calls[0]? =
          some ⟨.greeting, .finished (.error TransportFault.endedByProvider.fault)⟩ :=
    ⟨_, _, rfl, rfl, rfl, .inr ⟨rfl, rfl⟩, rfl⟩
  have first : ((opening true true).closings codec {} before).head? = some .endedByProvider := rfl
  obtain ⟨-, -, -, stays, -, settled, -⟩ := lost_peer_stays_lost codec {} reached goesOn
  obtain ⟨-, -, reason, head, -, closed, -⟩ := settled processed
  rw [first] at head
  cases head
  exact ⟨w, z, reached, goesOn, stays lost, closed, answered⟩

end Wire

end ProviderHost
