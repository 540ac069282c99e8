import ProviderHost.Proofs.Correlator.Closing
import ProviderHost.Proofs.Transport.Wire

/-!
# What a step on a transport does

A step makes at most one move on the requests (`requests_step`). Callers leave the connection and
its threads alone, and the threads leave the callers alone.
-/

namespace ProviderHost

open Correlator (Move Desk)

namespace Correlator

variable {π : Type}

def moved (c : Correlator π) (m : Option (Move π)) : Correlator π :=
  m.elim c fun m => (({ correlator := c } : Desk π).play m).2.correlator

@[simp] theorem moved_none (c : Correlator π) : c.moved none = c := rfl

theorem closed_moved (c : Correlator π) (m : Option (Move π)) :
    (c.moved m).closed =
      match m with
      | some (.close reason) => c.closed <|> some reason
      | _ => c.closed := by
  cases m with
  | none => rfl
  | some m =>
    refine (closed_play { correlator := c } m).trans ?_
    cases m <;> rfl

theorem lastId_le_moved (c : Correlator π) (m : Option (Move π)) :
    c.lastId ≤ (c.moved m).lastId := by
  cases m with
  | none => exact Int.le_refl _
  | some m =>
    have played := lastId_play { correlator := c } m
    refine Int.le_trans ?_ (Int.le_of_eq played.symm)
    cases m with
    | nextId => exact Int.le_add_one (Int.le_refl _)
    | _ => exact Int.le_refl _

/-- Only a waiter that wakes takes an entry away. -/
theorem isSome_slot?_moved {c : Correlator π} {m : Option (Move π)} {id : Int}
    (there : (c.slot? id).isSome) (asleep : m ≠ some (.wake id)) :
    ((c.moved m).slot? id).isSome := by
  cases m with
  | none => exact there
  | some m =>
    refine (admits_play { correlator := c } m id).mpr ?_
    cases m with
    | register i => exact .inr there
    | wake i => exact ⟨fun same => asleep (by rw [same]), there⟩
    | _ => exact there

theorem isSome_slot?_registered {c : Correlator π} {id : Int}
    (registered : (c.register id).1 = .ok ()) :
    ((c.moved (some (.register id))).slot? id).isSome := by
  have accepted : (Desk.play { correlator := c } (.register id)).1 = .registered (.ok ()) :=
    congrArg _ registered
  have opened := (registered_ok_iff.mp accepted).1
  exact (admits_play { correlator := c } (.register id) id).mpr (.inl ⟨rfl, opened⟩)

end Correlator

def Frame.resolution? (c : Correlator Text) : Frame → Option (Move Text)
  | .reply id payload => if (c.resolve id payload).1 then some (.resolve id payload) else none
  | _ => none

namespace Transport

def resolution? (decode : Text → Frame) (t : Transport) (line : Text) : Option (Move Text) :=
  (Lines.counted? line).bind fun line => (decode line).resolution? t.requests

theorem dispatch_fst (t : Transport) (line : Text) (f : Frame) :
    (t.dispatch line f).1 = { t with requests := t.requests.moved (f.resolution? t.requests) } := by
  cases f with
  | noise | other => rfl
  | reply id payload =>
    unfold dispatch Frame.resolution?
    rcases resolved : t.requests.resolve id payload with ⟨_ | _, requests⟩
    · simp [resolved]
    · simp [Correlator.moved, Desk.play, resolved]

theorem receive_fst (decode : Text → Frame) (t : Transport) (line : Text) :
    (t.receive decode line).1 =
      { t with requests := t.requests.moved (t.resolution? decode line) } := by
  unfold receive resolution?
  cases Lines.counted? line with
  | none => rfl
  | some line => exact t.dispatch_fst line (decode line)

theorem exists_resolve_of_resolution? {decode : Text → Frame} {t : Transport} {line : Text}
    {m : Move Text} (same : t.resolution? decode line = some m) :
    ∃ id payload, m = .resolve id payload := by
  obtain ⟨line, -, resolved⟩ := Option.bind_eq_some_iff.mp same
  cases frame : decode line with
  | noise | other =>
    rw [frame] at resolved
    cases resolved
  | reply id payload =>
    rw [frame, Frame.resolution?] at resolved
    split at resolved <;> cases resolved
    exact ⟨id, payload, rfl⟩

end Transport

namespace Wire

variable {codec : Codec} {s : Settings} {w y : Wire} {e : WireEvent}

theorem step_advance_eq_some {n : Nat} :
    w.step codec s (.advance n) = some y ↔ ∃ d stage next, w.calls[n]? = some ⟨d, stage⟩ ∧
      stage.next? codec s d w = some next ∧
      (stage.act codec d w).put n ⟨d, stage⟩ next = y := by
  refine ⟨fun stepped => ?_, ?_⟩
  · obtain ⟨⟨d, stage⟩, present, stepped⟩ := Option.bind_eq_some_iff.mp stepped
    obtain ⟨next, follows, made⟩ := Option.map_eq_some_iff.mp stepped
    exact ⟨d, stage, next, present, follows, made⟩
  · rintro ⟨d, stage, next, present, follows, made⟩
    rw [step, present, Option.bind_some, advance, follows, Option.map_some, made]

theorem exists_of_step_send {n : Nat} {failure : Option Text}
    (stepped : w.step codec s (.send n failure) = some y) :
    ∃ d stage next, w.calls[n]? = some ⟨d, stage⟩ ∧
      stage.sent? (w.deliver failure) = some next ∧ y = w.put n ⟨d, stage⟩ next := by
  obtain ⟨⟨d, stage⟩, present, stepped⟩ := Option.bind_eq_some_iff.mp stepped
  obtain ⟨next, follows, rfl⟩ := Option.map_eq_some_iff.mp stepped
  exact ⟨d, stage, next, present, follows, rfl⟩

def Stage.move? : Stage → Option (Move Text)
  | .drawing => some .nextId
  | .registering id => some (.register id)
  | .failing id cause => some (.fail id cause)
  | .asleep id => some (.wake id)
  | _ => none

def closing? (w : Wire) : WireEvent → Option TransportFault
  | .read => if w.phase = .refusing then some .endedByProvider else none
  | .closing => if w.closer = some .refusing then some (.closedByHost w.transport.kind) else none
  | _ => none

def move? (codec : Codec) (w : Wire) (e : WireEvent) : Option (Move Text) :=
  match w.closing? e with
  | some reason => some (.close reason.fault)
  | none =>
    match e with
    | .read =>
      match w.phase with
      | .handing (line :: _) _ _ => w.transport.resolution? codec.frame line
      | .finishing => w.transport.resolution? codec.frame w.transport.reader.outRest
      | _ => none
    | .advance n => (w.calls[n]?).bind (·.stage.move?)
    | _ => none

inductive MoveSource (w : Wire) : WireEvent → Move Text → Prop where
  | closing {e : WireEvent} {reason : TransportFault} : w.closing? e = some reason →
      MoveSource w e (.close reason.fault)
  | reader (id : Int) (payload : Text) : MoveSource w .read (.resolve id payload)
  | caller {n : Nat} {d : Demand} {stage : Stage} {m : Move Text} :
      w.calls[n]? = some ⟨d, stage⟩ → stage.move? = some m → MoveSource w (.advance n) m

theorem moveSource {m : Move Text} (move : w.move? codec e = some m) : MoveSource w e m := by
  unfold move? at move
  cases closing : w.closing? e with
  | some reason =>
    rw [closing] at move
    cases move
    exact .closing closing
  | none =>
    rw [closing] at move
    cases e with
    | read =>
      dsimp only at move
      split at move
      · obtain ⟨id, payload, rfl⟩ := Transport.exists_resolve_of_resolution? move
        exact .reader id payload
      · obtain ⟨id, payload, rfl⟩ := Transport.exists_resolve_of_resolution? move
        exact .reader id payload
      · cases move
    | advance n =>
      obtain ⟨⟨d, stage⟩, present, move⟩ := Option.bind_eq_some_iff.mp move
      exact .caller present move
    | drain | close | closing | ask | send => cases move

theorem move?_eq_close {r : Fault} :
    w.move? codec e = some (.close r) ↔ (w.closing? e).map TransportFault.fault = some r := by
  refine ⟨fun move => ?_, fun closes => ?_⟩
  · cases moveSource move with
    | closing closes =>
      rw [closes]
      rfl
    | @caller n d stage m present move => cases stage <;> cases move
  · obtain ⟨reason, closing, rfl⟩ := Option.map_eq_some_iff.mp closes
    unfold move?
    rw [closing]

theorem move?_eq_wake {id : Int} (move : w.move? codec e = some (.wake id)) :
    ∃ n d, e = .advance n ∧ w.calls[n]? = some ⟨d, .asleep id⟩ := by
  cases moveSource move with
  | @caller n d stage m present move =>
    cases stage <;> cases move
    exact ⟨n, d, rfl, present⟩

/-! ### The requests -/

/-- A step of the reader, or of whoever closes the transport: the callers are as they were, and so
is what they know of the provider. -/
structure ByThread (codec : Codec) (w : Wire) (e : WireEvent) (y : Wire) : Prop where
  requests : y.transport.requests = w.transport.requests.moved (w.move? codec e)
  calls : y.calls = w.calls
  greeted : y.transport.greeted = w.transport.greeted

theorem read_byThread (stepped : w.read codec = some y) : ByThread codec w .read y := by
  unfold read at stepped
  cases phase : w.phase with
  | draining | gone =>
    rw [phase] at stepped
    cases stepped
  | looking | leaving | disconnecting | refusing =>
    rw [phase] at stepped
    cases stepped
    refine ⟨?_, rfl, rfl⟩
    simp only [move?, closing?, phase]
    rfl
  | handing lines errLines ended =>
    rw [phase] at stepped
    cases lines with
    | nil =>
      cases stepped
      refine ⟨?_, rfl, rfl⟩
      simp only [move?, closing?, phase]
      rfl
    | cons line lines =>
      cases stepped
      rw [receiving, Transport.receive_fst]
      refine ⟨?_, rfl, rfl⟩
      simp only [move?, closing?, phase]
      rfl
  | finishing =>
    rw [phase] at stepped
    cases stepped
    rw [receiving, Transport.receive_fst]
    refine ⟨?_, rfl, rfl⟩
    simp only [move?, closing?, phase]
    rfl

theorem drain_byThread {out err : Chunk} (stepped : w.drain out err = some y) :
    ByThread codec w (.drain out err) y := by
  unfold drain at stepped
  split at stepped <;> cases stepped
  exact ⟨rfl, rfl, rfl⟩

theorem close_byThread (stepped : w.close = some y) : ByThread codec w .close y := by
  unfold close at stepped
  split at stepped
  · cases stepped
  · split at stepped <;> cases stepped <;> exact ⟨rfl, rfl, rfl⟩

theorem goOnClosing_byThread (stepped : w.goOnClosing = some y) :
    ByThread codec w .closing y := by
  obtain ⟨now, closer, stepped⟩ := Option.bind_eq_some_iff.mp stepped
  have move (other : now ≠ .refusing) : w.move? codec .closing = none := by
    simp [move?, closing?, closer, other]
  cases now with
  | disconnecting | flagging | closingInput =>
    cases stepped
    exact ⟨by rw [move (by rintro ⟨⟩)]; rfl, rfl, rfl⟩
  | joining =>
    dsimp only at stepped
    split at stepped <;> cases stepped
    exact ⟨by rw [move (by rintro ⟨⟩)]; rfl, rfl, rfl⟩
  | refusing =>
    cases stepped
    refine ⟨?_, rfl, rfl⟩
    simp only [move?, closing?, closer, if_true]
    rfl

theorem act_requests (stage : Stage) (d : Demand) :
    (stage.act codec d w).transport.requests = w.transport.requests.moved stage.move? := by
  cases stage with
  | answered result =>
    unfold Stage.act
    dsimp only
    split <;> rfl
  | _ => rfl

theorem move?_advance {n : Nat} {call : Call} (present : w.calls[n]? = some call) :
    w.move? codec (.advance n) = call.stage.move? := by
  simp [move?, closing?, present]

theorem requests_step (stepped : w.step codec s e = some y) :
    y.transport.requests = w.transport.requests.moved (w.move? codec e) := by
  cases e with
  | read => exact (read_byThread stepped).requests
  | drain out err => exact (drain_byThread stepped).requests
  | close => exact (close_byThread stepped).requests
  | closing => exact (goOnClosing_byThread stepped).requests
  | advance n =>
    obtain ⟨d, stage, next, present, -, rfl⟩ := step_advance_eq_some.mp stepped
    rw [move?_advance present]
    exact act_requests stage d
  | send n failure =>
    obtain ⟨d, stage, next, -, -, rfl⟩ := exists_of_step_send stepped
    rfl
  | ask d =>
    cases stepped
    rfl

theorem closed_step (stepped : w.step codec s e = some y) :
    y.transport.requests.closed =
      (w.transport.requests.closed <|> (w.closing? e).map TransportFault.fault) := by
  rw [requests_step stepped, Correlator.closed_moved]
  split
  · rename_i r move
    rw [move?_eq_close.mp move]
  · rename_i other
    cases closing : w.closing? e with
    | none => simp
    | some reason =>
      refine absurd (move?_eq_close.mpr ?_) (other reason.fault)
      rw [closing]
      rfl

/-! ### Callers and threads -/

structure SameThreads (w y : Wire) : Prop where
  kind : y.transport.kind = w.transport.kind
  connected : y.transport.connected = w.transport.connected
  closed : y.transport.closed = w.transport.closed
  reader : y.transport.reader = w.transport.reader
  ended : y.ended = w.ended
  phase : y.phase = w.phase
  closer : y.closer = w.closer

theorem act_sameThreads (stage : Stage) (d : Demand) : SameThreads w (stage.act codec d w) := by
  cases stage with
  | answered result =>
    unfold Stage.act
    dsimp only
    split <;> exact ⟨rfl, rfl, rfl, rfl, rfl, rfl, rfl⟩
  | _ => exact ⟨rfl, rfl, rfl, rfl, rfl, rfl, rfl⟩

theorem put_sameThreads (same : SameThreads w y) (n : Nat) (call : Call) (next : Stage) :
    SameThreads w (y.put n call next) :=
  ⟨same.kind, same.connected, same.closed, same.reader, same.ended, same.phase, same.closer⟩

end Wire

def WireEvent.caller? : WireEvent → Option Nat
  | advance n | send n _ => some n
  | _ => none

def WireEvent.isCaller : WireEvent → Bool
  | ask _ | advance _ | send _ _ => true
  | read | drain _ _ | close | closing => false

namespace Wire

variable {codec : Codec} {s : Settings} {w y : Wire} {e : WireEvent}

theorem sameThreads_step (stepped : w.step codec s e = some y) (caller : e.isCaller) :
    SameThreads w y := by
  cases e with
  | read | drain | close | closing => cases caller
  | ask d =>
    cases stepped
    exact ⟨rfl, rfl, rfl, rfl, rfl, rfl, rfl⟩
  | advance n =>
    obtain ⟨d, stage, next, -, -, rfl⟩ := step_advance_eq_some.mp stepped
    exact put_sameThreads (act_sameThreads stage d) n ⟨d, stage⟩ next
  | send n failure =>
    obtain ⟨d, stage, next, -, -, rfl⟩ := exists_of_step_send stepped
    exact put_sameThreads ⟨rfl, rfl, rfl, rfl, rfl, rfl, rfl⟩ n ⟨d, stage⟩ next

theorem byThread (stepped : w.step codec s e = some y) (thread : e.isCaller = false) :
    ByThread codec w e y := by
  cases e with
  | read => exact read_byThread stepped
  | drain out err => exact drain_byThread stepped
  | close => exact close_byThread stepped
  | closing => exact goOnClosing_byThread stepped
  | ask | advance | send => cases thread

inductive Became (codec : Codec) (s : Settings) (w : Wire) (m : Nat) : WireEvent → Call → Prop where
  | same {e : WireEvent} {call : Call} : e.caller? ≠ some m → w.calls[m]? = some call →
      Became codec s w m e call
  | asked (d : Demand) : m = w.calls.length → Became codec s w m (.ask d) { demand := d }
  | advanced {d : Demand} {stage next : Stage} : w.calls[m]? = some ⟨d, stage⟩ →
      stage.next? codec s d w = some next → Became codec s w m (.advance m) ⟨d, next⟩
  | sent {d : Demand} {stage next : Stage} (failure : Option Text) :
      w.calls[m]? = some ⟨d, stage⟩ → stage.sent? (w.deliver failure) = some next →
      Became codec s w m (.send m failure) ⟨d, next⟩

theorem act_calls (stage : Stage) (d : Demand) : (stage.act codec d w).calls = w.calls := by
  cases stage with
  | answered result =>
    unfold Stage.act
    dsimp only
    split <;> rfl
  | _ => rfl

theorem became {m : Nat} {call : Call} (stepped : w.step codec s e = some y)
    (present : y.calls[m]? = some call) : Became codec s w m e call := by
  cases e with
  | read | drain | close | closing =>
    rw [(byThread stepped rfl).calls] at present
    exact .same (by rintro ⟨⟩) present
  | ask d =>
    cases stepped
    rcases Nat.lt_trichotomy m w.calls.length with old | rfl | none
    · rw [List.getElem?_append_left old] at present
      exact .same (by rintro ⟨⟩) present
    · rw [List.getElem?_concat_length] at present
      cases present
      exact .asked d rfl
    · rw [List.getElem?_eq_none (by simp; omega)] at present
      cases present
  | advance n =>
    obtain ⟨d, stage, next, before, follows, rfl⟩ := step_advance_eq_some.mp stepped
    simp only [put, act_calls, List.getElem?_set] at present
    by_cases own : n = m
    · subst own
      rw [if_pos rfl, if_pos (List.getElem?_eq_some_iff.mp before).1] at present
      cases present
      exact .advanced before follows
    · rw [if_neg own] at present
      exact .same (fun same => own (Option.some.inj same)) present
  | send n failure =>
    obtain ⟨d, stage, next, before, follows, rfl⟩ := exists_of_step_send stepped
    simp only [put, List.getElem?_set] at present
    by_cases own : n = m
    · subst own
      rw [if_pos rfl, if_pos (List.getElem?_eq_some_iff.mp before).1] at present
      cases present
      exact .sent failure before follows
    · rw [if_neg own] at present
      exact .same (fun same => own (Option.some.inj same)) present

theorem length_calls_step (stepped : w.step codec s e = some y) :
    w.calls.length ≤ y.calls.length := by
  cases e with
  | read | drain | close | closing =>
    exact Nat.le_of_eq (congrArg List.length (byThread stepped rfl).calls.symm)
  | ask d =>
    cases stepped
    simp
  | advance n =>
    obtain ⟨d, stage, next, -, -, rfl⟩ := step_advance_eq_some.mp stepped
    simp [put, act_calls]
  | send n failure =>
    obtain ⟨d, stage, next, -, -, rfl⟩ := exists_of_step_send stepped
    simp [put]

theorem finished_step {m : Nat} {d : Demand} {answer : Except Fault Demand.Answer}
    (stepped : w.step codec s e = some y) (present : w.calls[m]? = some ⟨d, .finished answer⟩) :
    y.calls[m]? = some ⟨d, .finished answer⟩ := by
  have bound : m < y.calls.length :=
    Nat.lt_of_lt_of_le (List.getElem?_eq_some_iff.mp present).1 (length_calls_step stepped)
  have there := List.getElem?_eq_getElem bound
  generalize y.calls[m] = call at there
  rw [there]
  cases became stepped there with
  | same _ before => rw [← before, present]
  | asked d isNew =>
    rw [isNew, List.getElem?_eq_none (Nat.le_refl _)] at present
    cases present
  | advanced before follows | sent _ before follows =>
    rw [present] at before
    cases before
    cases follows

/-! ### Runs -/

theorem run_cons (w : Wire) (e : WireEvent) (events : List WireEvent) :
    w.run codec s (e :: events) = (w.step codec s e).bind fun y => y.run codec s events := rfl

theorem run_append (w : Wire) (events more : List WireEvent) :
    w.run codec s (events ++ more) =
      (w.run codec s events).bind fun y => y.run codec s more := List.foldlM_append

theorem run_preserves {P : Wire → Prop} {events : List WireEvent}
    (keeps : ∀ {w y : Wire} {e : WireEvent}, P w → w.step codec s e = some y → P y) (holds : P w)
    (ran : w.run codec s events = some y) : P y := by
  induction events generalizing w with
  | nil =>
    cases ran
    exact holds
  | cons e events ih =>
    rw [run_cons] at ran
    obtain ⟨x, stepped, ran⟩ := Option.bind_eq_some_iff.mp ran
    exact ih (keeps holds stepped) ran

/-- The closings of the requests in a run, in order. -/
def closings (codec : Codec) (s : Settings) (w : Wire) : List WireEvent → List TransportFault
  | [] => []
  | e :: events =>
    (w.closing? e).toList ++ ((w.step codec s e).elim [] fun y => y.closings codec s events)

theorem closed_run {events : List WireEvent} (ran : w.run codec s events = some y) :
    y.transport.requests.closed =
      (w.transport.requests.closed <|>
        (w.closings codec s events).head?.map TransportFault.fault) := by
  induction events generalizing w with
  | nil =>
    cases ran
    simp [closings]
  | cons e events ih =>
    rw [run_cons] at ran
    obtain ⟨x, stepped, ran⟩ := Option.bind_eq_some_iff.mp ran
    rw [ih ran, closed_step stepped, closings, stepped]
    cases w.transport.requests.closed <;> cases w.closing? e <;> simp

end Wire

end ProviderHost
