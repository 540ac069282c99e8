import ProviderHost.Proofs.Transport.WireSteps

/-!
# Taking the connection down

The reader, when standard output ends, and whoever closes the transport take the connection down
first and refuse the requests afterwards, in whatever order the two get there. `Ordered` is what
every step keeps of that.
-/

namespace ProviderHost

namespace Wire

variable {codec : Codec} {s : Settings} {w y z : Wire} {e : WireEvent}

/-- Whether the reader has read the end of standard output and not met it yet. -/
def Phase.meetsEnd : Phase → Bool
  | handing _ _ ended => ended
  | finishing => true
  | _ => false

/-- Standard output has ended, or the transport was closed, and this has taken effect. -/
def HasLost (w : Wire) : Prop :=
  (w.ended ∧ w.phase ≠ .disconnecting) ∨ (w.transport.closed ∧ w.closer ≠ some .disconnecting)

/-- The end of standard output, or a closing of the transport, is fully processed. -/
def IsProcessed (w : Wire) : Prop :=
  (w.ended ∧ w.phase ≠ .disconnecting ∧ w.phase ≠ .refusing) ∨
    (w.transport.closed ∧ w.closer = none)

/-- How the connection and the threads that work on it fit together. -/
structure Ordered (w : Wire) : Prop where
  kind : w.transport.kind = .stdio
  meets : w.phase.meetsEnd → w.transport.reader.outOpen
  ended : w.ended → w.transport.reader.outOpen = false
  losing : w.phase = .disconnecting ∨ w.phase = .refusing → w.ended
  closing : w.closer.isSome → w.transport.closed
  lost : w.transport.connected = false ↔ w.HasLost
  processed : w.IsProcessed → w.transport.requests.closed.isSome
  refused : w.transport.requests.closed.isSome → w.HasLost

theorem opening_ordered (outOpen errOpen : Bool) : (opening outOpen errOpen).Ordered where
  kind := rfl
  meets := by rintro ⟨⟩
  ended := by rintro ⟨⟩
  losing := by rintro (h | h) <;> cases h
  closing := by rintro ⟨⟩
  lost := by simp [opening, HasLost]
  processed := by simp [opening, IsProcessed]
  refused := by rintro ⟨⟩

/-- The connection is as it was, and neither thread is about to take it down. -/
structure Steady (w y : Wire) : Prop where
  kind : y.transport.kind = w.transport.kind
  connected : y.transport.connected = w.transport.connected
  closed : y.transport.closed = w.transport.closed
  ended : y.ended = w.ended
  closer : y.closer = w.closer
  outOpen : y.transport.reader.outOpen = w.transport.reader.outOpen
  requests : y.transport.requests.closed = w.transport.requests.closed
  disconnecting : y.phase = .disconnecting ↔ w.phase = .disconnecting
  refusing : y.phase = .refusing ↔ w.phase = .refusing

theorem Ordered.steady (ordered : w.Ordered) (steady : Steady w y)
    (meets : y.phase.meetsEnd → w.transport.reader.outOpen) : y.Ordered := by
  obtain ⟨kind, connected, closed, ended, closer, outOpen, requests, disconnecting, refusing⟩ :=
    steady
  have lost : y.HasLost ↔ w.HasLost := by
    rw [HasLost, HasLost, ended, closed, closer, Ne, disconnecting]
  have processed : y.IsProcessed ↔ w.IsProcessed := by
    rw [IsProcessed, IsProcessed, ended, closed, closer, Ne, Ne, disconnecting, refusing]
  constructor
  · rw [kind]
    exact ordered.kind
  · rw [outOpen]
    exact meets
  · rw [ended, outOpen]
    exact ordered.ended
  · rw [ended, disconnecting, refusing]
    exact ordered.losing
  · rw [closer, closed]
    exact ordered.closing
  · rw [connected, lost]
    exact ordered.lost
  · rw [processed, requests]
    exact ordered.processed
  · rw [requests, lost]
    exact ordered.refused

/-- A line that is received changes nothing but the requests, and does not close them. -/
theorem receive_keeps (decode : Text → Frame) (t : Transport) (line : Text) :
    let t' := (t.receive decode line).1
    t'.kind = t.kind ∧ t'.connected = t.connected ∧ t'.closed = t.closed ∧ t'.reader = t.reader ∧
      t'.requests.closed = t.requests.closed := by
  rw [Transport.receive_fst]
  refine ⟨rfl, rfl, rfl, rfl, ?_⟩
  dsimp only
  rw [Correlator.closed_moved]
  split
  · rename_i r same
    obtain ⟨_, _, ⟨⟩⟩ := Transport.exists_resolve_of_resolution? same
  · rfl

inductive ReadStep (w : Wire) : Wire → Prop where
  | steady {y : Wire} : Steady w y → y.phase.meetsEnd = w.phase.meetsEnd → ReadStep w y
  | finishing (requests : Correlator Text) (told : List ReaderEvent) : w.phase = .finishing →
      requests.closed = w.transport.requests.closed →
      ReadStep w { w with
        transport := { w.transport with
          requests := requests
          reader := { w.transport.reader with outRest := [], outOpen := false } }
        told := told
        ended := true
        phase := .disconnecting }
  | disconnecting (told : List ReaderEvent) : w.phase = .disconnecting →
      ReadStep w { w with
        transport := { w.transport with connected := false }
        told := told
        phase := .refusing }
  | refusing : w.phase = .refusing →
      ReadStep w { w.withRequests
          (w.transport.requests.close TransportFault.endedByProvider.fault) with
        phase := .looking }

theorem readStep (stepped : w.read codec = some y) : ReadStep w y := by
  unfold read at stepped
  cases phase : w.phase with
  | draining | gone =>
    rw [phase] at stepped
    cases stepped
  | looking =>
    rw [phase] at stepped
    cases stepped
    refine .steady ⟨rfl, rfl, rfl, rfl, rfl, rfl, rfl, ?_, ?_⟩ ?_ <;>
      dsimp only <;> split <;> simp [phase, Phase.meetsEnd]
  | leaving =>
    rw [phase] at stepped
    cases stepped
    refine .steady ⟨rfl, rfl, rfl, rfl, rfl, rfl, rfl, ?_, ?_⟩ ?_ <;>
      simp [receiving, phase, Phase.meetsEnd]
  | handing lines errLines ended =>
    rw [phase] at stepped
    cases lines with
    | nil =>
      cases stepped
      refine .steady ⟨rfl, rfl, rfl, rfl, rfl, rfl, rfl, ?_, ?_⟩ ?_ <;>
        cases ended <;> simp [phase, Phase.meetsEnd]
    | cons line lines =>
      cases stepped
      obtain ⟨kind, connected, closed, reader, requests⟩ :=
        receive_keeps codec.frame w.transport line
      refine .steady ⟨kind, connected, closed, rfl, rfl, congrArg _ reader, requests, ?_, ?_⟩ ?_ <;>
        simp [receiving, phase, Phase.meetsEnd]
  | finishing =>
    rw [phase] at stepped
    cases stepped
    obtain ⟨-, -, -, -, requests⟩ :=
      receive_keeps codec.frame w.transport w.transport.reader.outRest
    have step := ReadStep.finishing (w := w) _
      (w.told ++ (w.transport.receive codec.frame w.transport.reader.outRest).2) phase requests
    simp only [Transport.receive_fst] at step
    simp only [receiving, Transport.receive_fst]
    exact step
  | disconnecting =>
    rw [phase] at stepped
    cases stepped
    exact .disconnecting _ phase
  | refusing =>
    rw [phase] at stepped
    cases stepped
    exact .refusing phase

theorem Ordered.ended_eq_false (ordered : w.Ordered) (meets : w.phase.meetsEnd) :
    w.ended = false := by
  rw [← Bool.not_eq_true]
  intro ended
  have isOpen := ordered.meets meets
  rw [ordered.ended ended] at isOpen
  cases isOpen

theorem read_ordered (ordered : w.Ordered) (stepped : w.read codec = some y) : y.Ordered := by
  cases readStep stepped with
  | steady steady meets =>
    refine ordered.steady steady ?_
    rw [meets]
    exact ordered.meets
  | finishing requests told phase closed =>
    have goesOn := ordered.ended_eq_false (by rw [phase]; rfl)
    obtain ⟨kind, -, -, -, closing, lost, processed, refused⟩ := ordered
    refine ⟨kind, by rintro ⟨⟩, fun _ => rfl, fun _ => rfl, closing, ?_, ?_, ?_⟩
    · simpa [HasLost, goesOn] using lost
    · simpa [IsProcessed, goesOn, closed] using processed
    · simpa [HasLost, goesOn, closed] using refused
  | disconnecting told phase =>
    have ended := ordered.losing (.inl phase)
    obtain ⟨kind, -, notOpen, -, closing, -, processed, -⟩ := ordered
    refine ⟨kind, by rintro ⟨⟩, notOpen, fun _ => ended, closing, ?_, ?_, ?_⟩
    · simp [HasLost, ended]
    · simpa [IsProcessed, phase] using processed
    · simp [HasLost, ended]
  | refusing phase =>
    have ended := ordered.losing (.inr phase)
    have lost : w.HasLost := .inl ⟨ended, by rw [phase]; rintro ⟨⟩⟩
    refine ⟨ordered.kind, by rintro ⟨⟩, ordered.ended, by simp, ordered.closing, ?_, ?_, ?_⟩
    · exact ⟨fun _ => .inl ⟨ended, by rintro ⟨⟩⟩, fun _ => ordered.lost.mpr lost⟩
    · exact fun _ => Correlator.isSome_close _ w.transport.requests
    · exact fun _ => .inl ⟨ended, by rintro ⟨⟩⟩

theorem outOpen_drained (out err : Chunk) (r : Reader) :
    ((r.takeOut out).2.takeErr err).2.outOpen = r.outOpen := by
  have kept : (r.takeOut out).2.outOpen = r.outOpen := by
    unfold Reader.takeOut
    split <;> rfl
  rw [← kept]
  unfold Reader.takeErr
  split <;> rfl

theorem drain_steady {out err : Chunk} (stepped : w.drain out err = some y) :
    Steady w y ∧ w.phase.meetsEnd = false ∧
      y.phase.meetsEnd = (w.transport.reader.outOpen && out.ended) := by
  unfold drain at stepped
  split at stepped
  · rename_i phase
    cases stepped
    have outOpen := outOpen_drained out err w.transport.reader
    refine ⟨⟨rfl, rfl, rfl, rfl, rfl, outOpen, rfl, by simp [phase], by simp [phase]⟩, ?_, rfl⟩
    rw [phase]
    rfl
  · cases stepped

theorem drain_ordered {out err : Chunk} (ordered : w.Ordered) (stepped : w.drain out err = some y) :
    y.Ordered := by
  obtain ⟨steady, -, meets⟩ := drain_steady stepped
  refine ordered.steady steady fun met => ?_
  rw [meets, Bool.and_eq_true] at met
  exact met.1

/-- The first to close the transport begins with it, and whoever comes later changes nothing. -/
theorem eq_of_close (stepped : w.close = some y) :
    (w.transport.closed ∧ y = w) ∨
      (w.transport.closed = false ∧ w.closer = none ∧
        y = { w with
          transport := { w.transport with closed := true }
          closer := some .disconnecting }) := by
  unfold close at stepped
  split at stepped
  · cases stepped
  · rename_i nobody
    split at stepped <;> cases stepped <;> rename_i closed
    · exact .inl ⟨closed, rfl⟩
    · exact .inr ⟨by simpa using closed, nobody, rfl⟩

theorem close_ordered (ordered : w.Ordered) (stepped : w.close = some y) : y.Ordered := by
  rcases eq_of_close stepped with ⟨-, rfl⟩ | ⟨closed, nobody, rfl⟩
  · exact ordered
  · obtain ⟨kind, meets, ended, losing, -, lost, processed, refused⟩ := ordered
    refine ⟨kind, meets, ended, losing, fun _ => rfl, ?_, ?_, ?_⟩
    · simpa [HasLost, closed] using lost
    · simpa [IsProcessed, closed] using processed
    · simpa [HasLost, closed] using refused

inductive ClosingStep (w : Wire) : Wire → Prop where
  | disconnecting : w.closer = some .disconnecting →
      ClosingStep w { w with
        transport := { w.transport with connected := false }
        closer := some .flagging }
  | preparing {stopping inputOpen : Bool} {now next : Closing} : w.closer = some now →
      now ≠ .disconnecting → next ≠ .disconnecting →
      ClosingStep w { w with stopping := stopping, inputOpen := inputOpen, closer := some next }
  | refusing : w.closer = some .refusing →
      ClosingStep w { w.withRequests
          (w.transport.requests.close (TransportFault.closedByHost w.transport.kind).fault) with
        closer := none }

theorem closingStep (stepped : w.goOnClosing = some y) : ClosingStep w y := by
  obtain ⟨now, closer, stepped⟩ := Option.bind_eq_some_iff.mp stepped
  cases now with
  | disconnecting =>
    cases stepped
    exact .disconnecting closer
  | flagging | closingInput =>
    cases stepped
    exact .preparing closer (by rintro ⟨⟩) (by rintro ⟨⟩)
  | joining =>
    dsimp only at stepped
    split at stepped <;> cases stepped
    exact .preparing closer (by rintro ⟨⟩) (by rintro ⟨⟩)
  | refusing =>
    cases stepped
    exact .refusing closer

theorem ClosingStep.closed (step : ClosingStep w y) (ordered : w.Ordered) :
    w.transport.closed ∧ y.transport.closed := by
  have closed : w.transport.closed := by
    refine ordered.closing ?_
    cases step with
    | disconnecting closer | preparing closer | refusing closer =>
      rw [closer]
      rfl
  cases step <;> exact ⟨closed, closed⟩

theorem goOnClosing_ordered (ordered : w.Ordered) (stepped : w.goOnClosing = some y) :
    y.Ordered := by
  have step := closingStep stepped
  obtain ⟨closed, -⟩ := step.closed ordered
  obtain ⟨kind, meets, ended, losing, -, lost, processed, refused⟩ := ordered
  cases step with
  | disconnecting closer =>
    refine ⟨kind, meets, ended, losing, fun _ => closed, ?_, ?_, ?_⟩
    · simp [HasLost, closed]
    · simpa [IsProcessed, closer] using processed
    · simp [HasLost, closed]
  | preparing closer now next =>
    refine ⟨kind, meets, ended, losing, fun _ => closed, ?_, ?_, ?_⟩
    · simpa [HasLost, closer, now, next] using lost
    · simpa [IsProcessed, closer] using processed
    · simpa [HasLost, closer, now, next] using refused
  | refusing closer =>
    have before : w.HasLost := .inr ⟨closed, by rw [closer]; rintro ⟨⟩⟩
    refine ⟨kind, meets, ended, losing, by rintro ⟨⟩, ?_, ?_, ?_⟩
    · exact ⟨fun _ => .inr ⟨closed, by rintro ⟨⟩⟩, fun _ => lost.mpr before⟩
    · exact fun _ => Correlator.isSome_close _ w.transport.requests
    · exact fun _ => .inr ⟨closed, by rintro ⟨⟩⟩

theorem caller_ordered (ordered : w.Ordered) (stepped : w.step codec s e = some y)
    (caller : e.isCaller) : y.Ordered := by
  have same := sameThreads_step stepped caller
  have requests : y.transport.requests.closed = w.transport.requests.closed := by
    have none : w.closing? e = none := by
      cases e with
      | ask | advance | send => rfl
      | read | drain | close | closing => cases caller
    rw [closed_step stepped, none]
    simp
  refine ordered.steady ⟨same.kind, same.connected, same.closed, same.ended, same.closer,
    congrArg _ same.reader, requests, ?_, ?_⟩ ?_
  · rw [same.phase]
  · rw [same.phase]
  · rw [same.phase]
    exact ordered.meets

theorem step_ordered (ordered : w.Ordered) (stepped : w.step codec s e = some y) : y.Ordered := by
  cases e with
  | read => exact read_ordered ordered stepped
  | drain out err => exact drain_ordered ordered stepped
  | close => exact close_ordered ordered stepped
  | closing => exact goOnClosing_ordered ordered stepped
  | ask | advance | send => exact caller_ordered ordered stepped rfl

theorem connected_step (stepped : w.step codec s e = some y)
    (lost : w.transport.connected = false) : y.transport.connected = false := by
  cases e with
  | ask | advance | send => exact (sameThreads_step stepped rfl).connected.trans lost
  | drain out err => exact (drain_steady stepped).1.connected.trans lost
  | close =>
    rcases eq_of_close stepped with ⟨-, rfl⟩ | ⟨-, -, rfl⟩
    · exact lost
    · exact lost
  | read =>
    cases readStep stepped with
    | steady steady => exact steady.connected.trans lost
    | disconnecting => rfl
    | finishing | refusing => exact lost
  | closing =>
    cases closingStep stepped with
    | disconnecting => rfl
    | preparing | refusing => exact lost

end Wire

end ProviderHost
