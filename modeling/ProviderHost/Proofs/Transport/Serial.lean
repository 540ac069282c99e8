import ProviderHost.Proofs.Transport.Disconnection

/-!
# Operations that nobody interrupts

What a transport does at once is what its threads come to when nobody else takes a step: a round of
the reader, a closing of the transport, and the beginning of a request.
-/

namespace ProviderHost.Wire

variable {codec : Codec} {s : Settings} {w x y : Wire} {e : WireEvent}

def Reaches (codec : Codec) (s : Settings) (w y : Wire) : Prop :=
  ∃ events, w.run codec s events = some y

theorem Reaches.refl (w : Wire) : Reaches codec s w w := ⟨[], rfl⟩

theorem Reaches.trans (first : Reaches codec s w x) (second : Reaches codec s x y) :
    Reaches codec s w y := by
  obtain ⟨events, ran⟩ := first
  obtain ⟨more, goesOn⟩ := second
  refine ⟨events ++ more, ?_⟩
  rw [run_append, ran]
  exact goesOn

theorem Reaches.step (taken : w.step codec s e = some y) : Reaches codec s w y := by
  refine ⟨[e], ?_⟩
  rw [run_cons, taken]
  rfl

theorem reaches_looked (looking : w.phase = .looking) {next : Phase}
    (looks : (if w.stopping ∨ ¬ w.transport.reader.isBusy then .leaving else .draining) = next) :
    Reaches codec s w { w with phase := next } := by
  refine .step (e := .read) ?_
  rw [Wire.step, read, looking, ← looks]

/-- A wire that differs in what the reader is about and has brought about. -/
def reading (t : Transport) (told : List ReaderEvent) (phase : Phase) (w : Wire) : Wire :=
  { w with transport := t, told := told, phase := phase }

theorem reaches_received (w : Wire) (t : Transport) (told : List ReaderEvent)
    (lines errLines : List Text) (ended : Bool) :
    Reaches codec s (w.reading t told (.handing lines errLines ended))
      (w.reading (t.receiveAll codec.frame lines).1 (told ++ (t.receiveAll codec.frame lines).2)
        (.handing [] errLines ended)) := by
  induction lines generalizing t told with
  | nil =>
    rw [Transport.receiveAll, List.append_nil]
    exact .refl _
  | cons line lines ih =>
    have first : Reaches codec s (w.reading t told (.handing (line :: lines) errLines ended))
        (w.reading (t.receive codec.frame line).1 (told ++ (t.receive codec.frame line).2)
          (.handing lines errLines ended)) := .step (e := .read) rfl
    refine first.trans ?_
    rw [Transport.receiveAll, ← List.append_assoc]
    exact ih _ _

theorem reader_receive (decode : Text → Frame) (t : Transport) (line : Text) :
    (t.receive decode line).1.reader = t.reader := by
  rw [Transport.receive_fst]

theorem reader_receiveAll (decode : Text → Frame) (t : Transport) (lines : List Text) :
    (t.receiveAll decode lines).1.reader = t.reader := by
  induction lines generalizing t with
  | nil => rfl
  | cons line lines ih => exact (ih _).trans (reader_receive decode t line)

theorem reaches_lost (w : Wire) (t : Transport) (told : List ReaderEvent) :
    Reaches codec s (w.reading t told .finishing)
      ({ w with ended := true }.reading (t.loseOutput codec.frame).1
        (told ++ (t.loseOutput codec.frame).2) .looking) := by
  let received := t.receive codec.frame t.reader.outRest
  let met : Transport :=
    { received.1 with reader := { t.reader with outRest := [], outOpen := false } }
  let cut : Transport := { met with connected := false }
  let heard := told ++ received.2
  let past : Wire := { w with ended := true }
  have reader : received.1.reader = t.reader := reader_receive codec.frame t t.reader.outRest
  have finished : Reaches codec s (w.reading t told .finishing)
      (past.reading met heard .disconnecting) := .step (e := .read) rfl
  have disconnected : Reaches codec s (past.reading met heard .disconnecting)
      (past.reading cut (heard ++ [.note "stdio: provider closed stdout"]) .refusing) :=
    .step (e := .read) rfl
  refine (finished.trans disconnected).trans (.step (e := .read) ?_)
  simp only [Wire.step, read, reading, withRequests, Transport.loseOutput, ← List.append_assoc, cut,
    met, heard, past, received, reader]

theorem reaches_noticed (w : Wire) (t : Transport) (told : List ReaderEvent) (out : Chunk) :
    ∃ ended, Reaches codec s
      (w.reading t told (if t.reader.outOpen && out.ended then .finishing else .looking))
      ({ w with ended := ended }.reading (t.noticeEnd codec.frame out).1
        (told ++ (t.noticeEnd codec.frame out).2) .looking) := by
  unfold Transport.noticeEnd
  by_cases ends : t.reader.outOpen ∧ out.ended
  · rw [if_pos ends, if_pos (by simpa using ends)]
    exact ⟨true, reaches_lost w t told⟩
  · rw [if_neg ends, if_neg (by simpa using ends), List.append_nil]
    exact ⟨w.ended, .refl _⟩

theorem reaches_finished (w : Wire) (t : Transport) (told : List ReaderEvent) :
    Reaches codec s (w.reading t told .looking)
      (w.reading t.finishReading.1 (told ++ t.finishReading.2)
        (if t.finishReading.1.reader.isBusy then .looking else .gone)) := by
  unfold Transport.finishReading
  by_cases busy : t.reader.isBusy
  · rw [if_pos busy, if_pos busy, List.append_nil]
    exact .refl _
  · have idle : ¬ t.flushErrors.1.reader.isBusy := busy
    rw [if_neg busy, if_neg idle]
    have looked : Reaches codec s (w.reading t told .looking) (w.reading t told .leaving) :=
      reaches_looked rfl (if_pos (.inr busy))
    exact looked.trans (.step (e := .read) rfl)

/-- A round of the reader is a run of it, up to where it looks for more or is gone. -/
theorem reaches_iterated (looking : w.phase = .looking) (goesOn : w.stopping = false)
    (notClosed : w.transport.closed = false) (busy : w.transport.reader.isBusy) (out err : Chunk) :
    let made := w.transport.iterate codec.frame out err
    ∃ ended, Reaches codec s w
      ({ w with ended := ended }.reading made.1 (w.told ++ made.2)
        (if made.1.reader.isBusy then .looking else .gone)) := by
  let fromOut := w.transport.reader.takeOut out
  let fromErr := fromOut.2.takeErr err
  let t : Transport := { w.transport with reader := fromErr.2 }
  let handed := t.receiveAll codec.frame fromOut.1
  let errLines := fromErr.1.flatMap (Transport.lineEvents .err)
  let noticed := handed.1.noticeEnd codec.frame out
  let heard := w.told ++ handed.2 ++ errLines
  let ends := w.transport.reader.outOpen && out.ended
  have whole : w.transport.iterate codec.frame out err =
      (noticed.1.finishReading.1,
        handed.2 ++ errLines ++ noticed.2 ++ noticed.1.finishReading.2) := by
    unfold Transport.iterate
    rw [if_neg (by simp [notClosed, busy])]
  have looked : Reaches codec s w (w.reading w.transport w.told .draining) :=
    reaches_looked looking (if_neg (by simp [goesOn, busy]))
  have drained : Reaches codec s (w.reading w.transport w.told .draining)
      (w.reading t w.told (.handing fromOut.1 fromErr.1 ends)) := .step (e := .drain out err) rfl
  have received : Reaches codec s (w.reading t w.told (.handing fromOut.1 fromErr.1 ends))
      (w.reading handed.1 (w.told ++ handed.2) (.handing [] fromErr.1 ends)) :=
    reaches_received w t w.told fromOut.1 fromErr.1 ends
  have told : Reaches codec s (w.reading handed.1 (w.told ++ handed.2) (.handing [] fromErr.1 ends))
      (w.reading handed.1 heard (if ends then .finishing else .looking)) := .step (e := .read) rfl
  have same : handed.1.reader.outOpen = w.transport.reader.outOpen :=
    (congrArg Reader.outOpen (reader_receiveAll codec.frame t fromOut.1)).trans
      (outOpen_drained out err w.transport.reader)
  obtain ⟨ended, lost⟩ := @reaches_noticed codec s w handed.1 heard out
  rw [same] at lost
  have finished := @reaches_finished codec s { w with ended := ended } noticed.1
    (heard ++ noticed.2)
  have run := ((looked.trans drained).trans (received.trans told)).trans (lost.trans finished)
  have order : w.told ++ (handed.2 ++ errLines ++ noticed.2 ++ noticed.1.finishReading.2) =
      heard ++ noticed.2 ++ noticed.1.finishReading.2 := by
    simp only [heard, List.append_assoc]
  refine ⟨ended, ?_⟩
  rw [whole, order]
  exact run

theorem reaches_closed (looking : w.phase = .looking) (notClosed : w.transport.closed = false)
    (nobody : w.closer = none) :
    Reaches codec s w
      ({ w with stopping := true, inputOpen := false }.reading w.transport.close.1
        (w.told ++ w.transport.close.2) .gone) := by
  let begun : Wire :=
    { w with transport := { w.transport with closed := true }, closer := some .disconnecting }
  let flagged : Wire :=
    { w with
      transport := { w.transport with closed := true, connected := false }
      stopping := true
      inputOpen := false
      closer := some .joining }
  let flushed := flagged.transport.flushErrors
  let gone := flagged.reading flushed.1 (w.told ++ flushed.2) .gone
  have begins : Reaches codec s w begun := by
    refine .step (e := .close) ?_
    rw [Wire.step, close, nobody]
    exact if_neg (by rw [notClosed]; exact Bool.false_ne_true)
  have waits : Reaches codec s begun flagged := ⟨[.closing, .closing, .closing], rfl⟩
  have looked : Reaches codec s flagged { flagged with phase := .leaving } :=
    reaches_looked (w := flagged) looking (if_pos (.inl rfl))
  have left : Reaches codec s { flagged with phase := .leaving } gone := .step (e := .read) rfl
  have refused : Reaches codec s gone
      ({ w with stopping := true, inputOpen := false }.reading w.transport.close.1
        (w.told ++ w.transport.close.2) .gone) := by
    refine ⟨[.closing, .closing], ?_⟩
    unfold Transport.close
    rw [if_neg (by rw [notClosed]; exact Bool.false_ne_true)]
    have same : w = { w with closer := none } := by rw [← nobody]
    rw [same]
    rfl
  exact ((begins.trans waits).trans looked).trans (left.trans refused)

theorem reaches_advanced {n : Nat} {d : Demand} {stage next : Stage}
    (present : w.calls[n]? = some ⟨d, stage⟩) (follows : stage.next? codec s d w = some next) :
    Reaches codec s w ((stage.act codec d w).put n ⟨d, stage⟩ next) :=
  .step (step_advance_eq_some.mpr ⟨d, stage, next, present, follows, rfl⟩)

theorem reaches_begun {n : Nat} {d : Demand} (present : w.calls[n]? = some ⟨d, .connecting⟩) :
    Reaches codec s w ({ w with transport := w.transport.beginRequest.2 }.put n ⟨d, .connecting⟩
      (match w.transport.beginRequest.1 with
        | .ok id => .sending id
        | .error f => .answered (.error f))) := by
  have bound := (List.getElem?_eq_some_iff.mp present).1
  by_cases connected : w.transport.connected
  · have admitted : w.transport.admitMessage = .ok () := if_pos connected
    let drawn := w.transport.requests.nextId
    let w₁ := w.put n ⟨d, .connecting⟩ .drawing
    let w₂ := (w₁.withRequests drawn.2).put n ⟨d, .drawing⟩ (.registering drawn.1)
    have present₁ : w₁.calls[n]? = some ⟨d, .drawing⟩ := by simp [w₁, put, bound]
    have present₂ : w₂.calls[n]? = some ⟨d, .registering drawn.1⟩ := by
      simp [w₂, w₁, put, withRequests, bound]
    have first : Reaches codec s w w₁ := reaches_advanced present (by rw [Stage.next?, admitted])
    have second : Reaches codec s w₁ w₂ := reaches_advanced present₁ rfl
    refine (first.trans second).trans ?_
    rcases registered : drawn.2.register drawn.1 with ⟨result, requests⟩
    have answer : (w₂.transport.requests.register drawn.1).1 = result :=
      congrArg Prod.fst registered
    have kept : (Stage.registering drawn.1).act codec d w₂ = w₂.withRequests requests :=
      congrArg (fun made => w₂.withRequests made) (congrArg Prod.snd registered)
    have begun : w.transport.beginRequest =
        ((result.map fun _ => drawn.1).mapError RequestFault.fault,
          { w.transport with requests := requests }) := by
      rw [Transport.beginRequest, if_pos connected]
      dsimp only
      rw [registered]
    rw [begun]
    cases result with
    | ok =>
      have third := @reaches_advanced codec s w₂ n d _ (.sending drawn.1) present₂
        (by rw [Stage.next?, answer])
      rw [kept] at third
      simpa [w₂, w₁, put, withRequests, Except.map, Except.mapError] using third
    | error f =>
      have third := @reaches_advanced codec s w₂ n d _ (.answered (.error f.fault)) present₂
        (by rw [Stage.next?, answer])
      rw [kept] at third
      simpa [w₂, w₁, put, withRequests, Except.map, Except.mapError] using third
  · have refused : w.transport.admitMessage = .error (.notConnected w.transport.kind) :=
      if_neg connected
    rw [Transport.beginRequest, if_neg connected]
    exact reaches_advanced present (by rw [Stage.next?, refused])

end ProviderHost.Wire
