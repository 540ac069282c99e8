import ProviderHost.Transport.Stdio

/-!
# The lines of streams that are read in pieces

Where the streams of a provider are cut into reads, and how their readings interleave, does not
show in the lines that are handed on. `outDue` and `errDue` are the lines that a stream has still
to give; a round of the reader hands on a front of them and leaves the rest to the next round.
-/

namespace ProviderHost

namespace Lines

theorem split_rest (t : Text) : split (split t).2 = ([], (split t).2) := by
  have whole := split_append t []
  rw [List.append_nil, List.append_nil] at whole
  obtain ⟨lines, rest⟩ := Prod.ext_iff.mp whole
  exact Prod.ext (List.self_eq_append_right.mp lines) rest.symm

theorem ofStream_append (t u : Text) :
    ofStream (t ++ u) = (split t).1.filterMap counted? ++ ofStream ((split t).2 ++ u) := by
  rw [ofStream_eq_filterMap, ofStream_eq_filterMap, fields_eq_split, fields_eq_split, split_append]
  simp only [List.filterMap_append, List.append_assoc]

theorem ofStream_rest (t : Text) : ofStream (split t).2 = (counted? (split t).2).toList := by
  rw [ofStream_eq_filterMap, fields_eq_split, split_rest, List.nil_append, List.filterMap_cons]
  cases counted? (split t).2 <;> rfl

theorem ofStream_eq_split (t : Text) :
    ofStream t = (split t).1.filterMap counted? ++ (counted? (split t).2).toList := by
  have whole := ofStream_append t []
  rwa [List.append_nil, List.append_nil, ofStream_rest] at whole

end Lines

/-- The lines of a stream among what reading has brought about. -/
def linesOf (s : Stream) (events : List ReaderEvent) : List Text :=
  events.filterMap fun
    | .line stream text => if stream = s then some text else none
    | .note _ => none

theorem linesOf_append (s : Stream) (e₁ e₂ : List ReaderEvent) :
    linesOf s (e₁ ++ e₂) = linesOf s e₁ ++ linesOf s e₂ := List.filterMap_append

namespace Transport

theorem linesOf_lineEvents (s stream : Stream) (line : Text) :
    linesOf s (lineEvents stream line) =
      if stream = s then (Lines.counted? line).toList else [] := by
  unfold lineEvents linesOf
  cases Lines.counted? line with
  | none => simp
  | some text => by_cases same : stream = s <;> simp [same]

theorem linesOf_flatMap (s stream : Stream) (lines : List Text) :
    linesOf s (lines.flatMap (lineEvents stream)) =
      if stream = s then lines.filterMap Lines.counted? else [] := by
  induction lines with
  | nil => simp [linesOf]
  | cons line lines ih =>
    rw [List.flatMap_cons, linesOf_append, ih, linesOf_lineEvents]
    by_cases same : stream = s
    · simp only [same, if_true, List.filterMap_cons]
      cases Lines.counted? line <;> rfl
    · simp [same]

/-! ### Lines of standard output -/

variable (decode : Text → Frame)

/-- Two states of a transport between which its reader did not move. -/
structure SameReader (t u : Transport) : Prop where
  closed : u.closed = t.closed
  reader : u.reader = t.reader

theorem SameReader.trans {t u v : Transport} (first : SameReader t u) (second : SameReader u v) :
    SameReader t v :=
  ⟨second.closed.trans first.closed, second.reader.trans first.reader⟩

theorem dispatch_reads (t : Transport) (line : Text) (f : Frame) :
    SameReader t (t.dispatch line f).1 ∧ ∀ s, linesOf s (t.dispatch line f).2 = [] := by
  cases f with
  | noise => exact ⟨⟨rfl, rfl⟩, fun s => rfl⟩
  | other note => exact ⟨⟨rfl, rfl⟩, fun s => rfl⟩
  | reply id payload =>
    unfold dispatch
    dsimp only
    split <;> exact ⟨⟨rfl, rfl⟩, fun s => rfl⟩

theorem receive_reads (t : Transport) (line : Text) :
    SameReader t (t.receive decode line).1 ∧
      ∀ s, linesOf s (t.receive decode line).2 = linesOf s (lineEvents .out line) := by
  unfold receive lineEvents
  cases Lines.counted? line with
  | none => exact ⟨⟨rfl, rfl⟩, fun s => rfl⟩
  | some text =>
    obtain ⟨same, silent⟩ := t.dispatch_reads text (decode text)
    refine ⟨same, fun s => ?_⟩
    have front := linesOf_append s [.line .out text] (t.dispatch text (decode text)).2
    rw [silent s, List.append_nil] at front
    exact front

theorem receiveAll_reads (t : Transport) (lines : List Text) :
    SameReader t (t.receiveAll decode lines).1 ∧
      ∀ s, linesOf s (t.receiveAll decode lines).2 =
        linesOf s (lines.flatMap (lineEvents .out)) := by
  induction lines generalizing t with
  | nil => exact ⟨⟨rfl, rfl⟩, fun s => rfl⟩
  | cons line lines ih =>
    obtain ⟨first, here⟩ := t.receive_reads decode line
    obtain ⟨second, later⟩ := ih (t.receive decode line).1
    refine ⟨first.trans second, fun s => ?_⟩
    have both := linesOf_append s (t.receive decode line).2
      ((t.receive decode line).1.receiveAll decode lines).2
    rw [List.flatMap_cons, linesOf_append, ← here s, ← later s]
    exact both

theorem loseOutput_reads (t : Transport) :
    (t.loseOutput decode).1.closed = t.closed ∧
      (t.loseOutput decode).1.reader = { t.reader with outRest := [], outOpen := false } ∧
      ∀ s, linesOf s (t.loseOutput decode).2 = linesOf s (lineEvents .out t.reader.outRest) := by
  obtain ⟨same, given⟩ := t.receive_reads decode t.reader.outRest
  unfold loseOutput
  generalize t.receive decode t.reader.outRest = received at same given ⊢
  obtain ⟨u, events⟩ := received
  refine ⟨same.closed, by dsimp only at same ⊢; rw [same.reader], fun s => ?_⟩
  have all := linesOf_append s events [.note "stdio: provider closed stdout"]
  rw [given s] at all
  exact all.trans (List.append_nil _)

/-! ### What is due -/

/-- The lines that standard output has still to give, when `more` is still to be read. -/
def outDue (more : Text) (r : Reader) : List Text :=
  if r.outOpen then Lines.ofStream (r.outRest ++ more) else []

/-- The lines that standard error has still to give. Its last one waits for the end of reading. -/
def errDue (more : Text) (r : Reader) : List Text :=
  if r.errOpen then Lines.ofStream (r.errRest ++ more) else (Lines.counted? r.errRest).toList

theorem outDue_of_closed (more : Text) {r : Reader} (closed : r.outOpen = false) :
    outDue more r = [] := by
  simp [outDue, closed]

theorem errDue_of_closed (more : Text) {r : Reader} (closed : r.errOpen = false) :
    errDue more r = (Lines.counted? r.errRest).toList := by
  simp [errDue, closed]

/-- Between two states of a reader the lines of `events` are handed on, and nothing else of what
is due. `out` and `err` are what the streams hold before, `out'` and `err'` what they hold after. -/
structure Gives (out err : Text) (r : Reader) (events : List ReaderEvent) (out' err' : Text)
    (r' : Reader) : Prop where
  out : outDue out r = linesOf .out events ++ outDue out' r'
  err : errDue err r = linesOf .err events ++ errDue err' r'

theorem Gives.trans {out err out' err' out'' err'' : Text} {r r' r'' : Reader}
    {e₁ e₂ : List ReaderEvent} (first : Gives out err r e₁ out' err' r')
    (second : Gives out' err' r' e₂ out'' err'' r'') :
    Gives out err r (e₁ ++ e₂) out'' err'' r'' where
  out := by rw [first.out, second.out, linesOf_append, List.append_assoc]
  err := by rw [first.err, second.err, linesOf_append, List.append_assoc]

theorem Gives.of_lines {out err out' err' : Text} {r r' : Reader} {e₁ e₂ : List ReaderEvent}
    (gives : Gives out err r e₁ out' err' r') (same : ∀ s, linesOf s e₂ = linesOf s e₁) :
    Gives out err r e₂ out' err' r' where
  out := by rw [same, gives.out]
  err := by rw [same, gives.err]

theorem takeOut_gives (out : Chunk) (r : Reader) (later err : Text) :
    Gives (out.bytes ++ later) err r ((r.takeOut out).1.flatMap (lineEvents .out)) later err
      (r.takeOut out).2 := by
  unfold Reader.takeOut
  by_cases isOpen : r.outOpen
  · rw [if_pos isOpen]
    refine ⟨?_, by rw [linesOf_flatMap]; rfl⟩
    rw [linesOf_flatMap, if_pos rfl, outDue, outDue, if_pos isOpen, if_pos isOpen,
      ← List.append_assoc, Lines.ofStream_append]
  · rw [if_neg isOpen]
    exact ⟨by simp [outDue, isOpen, linesOf], rfl⟩

theorem takeErr_gives (err : Chunk) (r : Reader) (out later : Text) :
    Gives out (err.bytes ++ err.rest later) r ((r.takeErr err).1.flatMap (lineEvents .err)) out
      later (r.takeErr err).2 := by
  unfold Reader.takeErr
  by_cases isOpen : r.errOpen
  · rw [if_pos isOpen]
    refine ⟨by rw [linesOf_flatMap]; rfl, ?_⟩
    rw [linesOf_flatMap, if_pos rfl, errDue, errDue, if_pos isOpen, ← List.append_assoc,
      Lines.ofStream_append]
    unfold Chunk.rest
    cases err.ended with
    | true => simp [Lines.ofStream_rest]
    | false => rfl
  · rw [if_neg isOpen]
    exact ⟨rfl, by simp [errDue, isOpen, linesOf]⟩

/-- The unfinished line of standard output holds no newline, so its end makes one line of it. -/
theorem noticeEnd_gives (out : Chunk) (t : Transport) (later err : Text)
    (unfinished : t.reader.outOpen → Lines.split t.reader.outRest = ([], t.reader.outRest)) :
    Gives (out.rest later) err t.reader (t.noticeEnd decode out).2 later err
      (t.noticeEnd decode out).1.reader := by
  unfold noticeEnd Chunk.rest
  by_cases ending : t.reader.outOpen ∧ out.ended
  · obtain ⟨-, reader, given⟩ := t.loseOutput_reads decode
    rw [if_pos ending, reader, if_pos ending.2]
    refine ⟨?_, by rw [given, linesOf_lineEvents]; rfl⟩
    rw [given, linesOf_lineEvents, if_pos rfl, outDue, if_pos ending.1, List.append_nil,
      outDue_of_closed _ rfl, List.append_nil, Lines.ofStream_eq_split, unfinished ending.1]
    rfl
  · rw [if_neg ending]
    refine ⟨?_, rfl⟩
    by_cases isOpen : t.reader.outOpen
    · rw [if_neg fun last => ending ⟨isOpen, last⟩]
      rfl
    · simp [outDue, isOpen, linesOf]

theorem finishReading_gives (out err : Text) (t : Transport) :
    Gives out err t.reader t.finishReading.2 out err t.finishReading.1.reader := by
  unfold finishReading
  by_cases busy : t.reader.isBusy
  · rw [if_pos busy]
    exact ⟨rfl, rfl⟩
  · rw [if_neg busy]
    obtain ⟨outClosed, errClosed⟩ : t.reader.outOpen = false ∧ t.reader.errOpen = false := by
      simpa [Reader.isBusy] using busy
    unfold flushErrors
    refine ⟨?_, ?_⟩
    · rw [linesOf_lineEvents]
      simp [outDue, outClosed]
    · rw [linesOf_lineEvents]
      simp [errDue, errClosed, Lines.counted?]

/-! ### A round -/

theorem takeOut_open (out : Chunk) (r : Reader) :
    (r.takeOut out).2.outOpen = r.outOpen ∧ (r.takeOut out).2.errOpen = r.errOpen ∧
      (r.outOpen →
        Lines.split (r.takeOut out).2.outRest = ([], (r.takeOut out).2.outRest)) := by
  unfold Reader.takeOut
  split
  · exact ⟨rfl, rfl, fun _ => Lines.split_rest _⟩
  · rename_i isClosed
    exact ⟨rfl, rfl, fun isOpen => absurd isOpen isClosed⟩

theorem takeErr_open (err : Chunk) (r : Reader) :
    (r.takeErr err).2.outOpen = r.outOpen ∧ (r.takeErr err).2.outRest = r.outRest ∧
      (r.takeErr err).2.errOpen = (r.errOpen && !err.ended) := by
  unfold Reader.takeErr
  split
  · rename_i isOpen
    exact ⟨rfl, rfl, by simp [isOpen]⟩
  · rename_i isClosed
    exact ⟨rfl, rfl, by simp [isClosed]⟩

theorem noticeEnd_open (out : Chunk) (t : Transport) :
    (t.noticeEnd decode out).1.closed = t.closed ∧
      (t.noticeEnd decode out).1.reader.outOpen = (t.reader.outOpen && !out.ended) ∧
      (t.noticeEnd decode out).1.reader.errOpen = t.reader.errOpen := by
  unfold noticeEnd
  split
  · rename_i ending
    obtain ⟨closed, reader, -⟩ := t.loseOutput_reads decode
    rw [reader]
    exact ⟨closed, by simp [ending.2], rfl⟩
  · rename_i goesOn
    refine ⟨rfl, ?_, rfl⟩
    cases isOpen : t.reader.outOpen with
    | false => rfl
    | true => simpa [isOpen] using goesOn

/-- Whether nothing is left of standard error when both streams have ended. -/
def IsFlushed (r : Reader) : Prop := r.isBusy = false → r.errRest = []

theorem finishReading_open (t : Transport) :
    t.finishReading.1.closed = t.closed ∧
      t.finishReading.1.reader.outOpen = t.reader.outOpen ∧
      t.finishReading.1.reader.errOpen = t.reader.errOpen ∧
      IsFlushed t.finishReading.1.reader := by
  unfold finishReading
  split
  · rename_i busy
    refine ⟨rfl, rfl, rfl, fun idle => ?_⟩
    rw [busy] at idle
    cases idle
  · exact ⟨rfl, rfl, rfl, fun _ => rfl⟩

/-- What a round of the reader does on chunks of the two streams, which hold `outLater` and
`errLater` after it. -/
structure Round (out err : Chunk) (outLater errLater : Text) (t u : Transport)
    (events : List ReaderEvent) : Prop where
  gives : Gives (out.bytes ++ out.rest outLater) (err.bytes ++ err.rest errLater) t.reader events
    outLater errLater u.reader
  closed : u.closed = false
  outOpen : u.reader.outOpen = (t.reader.outOpen && !out.ended)
  errOpen : u.reader.errOpen = (t.reader.errOpen && !err.ended)
  flushed : IsFlushed t.reader → IsFlushed u.reader

theorem iterate_round {t : Transport} (opened : t.closed = false) (out err : Chunk)
    (outLater errLater : Text) :
    Round out err outLater errLater t (t.iterate decode out err).1
      (t.iterate decode out err).2 := by
  unfold iterate
  by_cases idle : t.closed ∨ ¬ t.reader.isBusy
  · obtain ⟨outClosed, errClosed⟩ : t.reader.outOpen = false ∧ t.reader.errOpen = false := by
      simpa [opened, Reader.isBusy] using idle
    rw [if_pos idle]
    refine ⟨⟨?_, ?_⟩, opened, ?_, ?_, id⟩
    · simp [outDue, outClosed, linesOf]
    · simp [errDue, errClosed, linesOf]
    · simp [outClosed]
    · simp [errClosed]
  · rw [if_neg idle]
    -- The chunks are taken in one after the other, and each part of the round hands on its lines.
    have givenOut := takeOut_gives out t.reader (out.rest outLater) (err.bytes ++ err.rest errLater)
    obtain ⟨outOpen₁, errOpen₁, unfinished⟩ := takeOut_open out t.reader
    generalize t.reader.takeOut out = taken at givenOut outOpen₁ errOpen₁ unfinished ⊢
    obtain ⟨outLines, r₁⟩ := taken
    have givenErr := takeErr_gives err r₁ (out.rest outLater) errLater
    obtain ⟨outOpen₂, outRest₂, errOpen₂⟩ := takeErr_open err r₁
    dsimp only at givenErr unfinished outOpen₁ errOpen₁ outOpen₂ outRest₂ errOpen₂ ⊢
    generalize r₁.takeErr err = taken at givenErr outOpen₂ outRest₂ errOpen₂ ⊢
    obtain ⟨errLines, r₂⟩ := taken
    obtain ⟨same, handed⟩ := receiveAll_reads decode { t with reader := r₂ } outLines
    dsimp only at same handed outOpen₂ outRest₂ errOpen₂ ⊢
    generalize receiveAll decode { t with reader := r₂ } outLines = received at same handed ⊢
    obtain ⟨t₃, e₁⟩ := received
    have reader : t₃.reader = r₂ := same.reader
    have givenLast := noticeEnd_gives decode out t₃ outLater errLater (by
      rw [reader, outRest₂, outOpen₂, outOpen₁]
      exact unfinished)
    obtain ⟨closed₄, outOpen₄, errOpen₄⟩ := noticeEnd_open decode out t₃
    dsimp only at same handed closed₄ outOpen₄ errOpen₄ ⊢
    generalize t₃.noticeEnd decode out = noticed at givenLast closed₄ outOpen₄ errOpen₄ ⊢
    obtain ⟨t₄, e₂⟩ := noticed
    obtain ⟨closed₅, outOpen₅, errOpen₅, flushed⟩ := finishReading_open t₄
    rw [reader] at givenLast
    dsimp only at closed₄ outOpen₄ errOpen₄ ⊢
    refine ⟨?_, ?_, ?_, ?_, fun _ => flushed⟩
    · exact (((givenOut.of_lines handed).trans givenErr).trans givenLast).trans
        (finishReading_gives outLater errLater t₄)
    · exact closed₅.trans (closed₄.trans (same.closed.trans opened))
    · rw [outOpen₅, outOpen₄, reader, outOpen₂, outOpen₁]
    · rw [errOpen₅, errOpen₄, reader, errOpen₂, errOpen₁]

/-! ### Rounds -/

/-- What several rounds of the reader do: the lines that are due are handed on, up to those of
`outLater` and `errLater`. -/
theorem readRounds_gives (n : Nat) (outs errs : List ReadAnswer) {t : Transport}
    (opened : t.closed = false) (flushed : IsFlushed t.reader) :
    IsFlushed (t.readRounds decode n outs errs).1.reader ∧ ∃ outLater errLater,
      Gives (ReadAnswer.contents outs) (ReadAnswer.contents errs) t.reader
        (t.readRounds decode n outs errs).2 outLater errLater
        (t.readRounds decode n outs errs).1.reader := by
  induction n generalizing outs errs t with
  | zero => exact ⟨flushed, _, _, rfl, rfl⟩
  | succ n ih =>
    have round := iterate_round decode opened (ReadAnswer.drain outs).1 (ReadAnswer.drain errs).1
      (ReadAnswer.contents (ReadAnswer.drain outs).2)
      (ReadAnswer.contents (ReadAnswer.drain errs).2)
    obtain ⟨done, outLater, errLater, later⟩ := ih (ReadAnswer.drain outs).2
      (ReadAnswer.drain errs).2 round.closed (round.flushed flushed)
    refine ⟨done, outLater, errLater, ?_⟩
    rw [ReadAnswer.contents_drain outs, ReadAnswer.contents_drain errs]
    exact round.gives.trans later

theorem readRounds_open (n : Nat) (outs errs : List ReadAnswer) {t : Transport}
    (opened : t.closed = false) :
    (t.reader.outOpen = false ∨ ReadAnswer.ends outs ∧ outs.length ≤ n →
      (t.readRounds decode n outs errs).1.reader.outOpen = false) ∧
    (t.reader.errOpen = false ∨ ReadAnswer.ends errs ∧ errs.length ≤ n →
      (t.readRounds decode n outs errs).1.reader.errOpen = false) := by
  induction n generalizing outs errs t with
  | zero =>
    refine ⟨fun closing => ?_, fun closing => ?_⟩ <;>
      rcases closing with isClosed | ⟨last, short⟩
    · exact isClosed
    · rw [List.length_eq_zero_iff.mp (Nat.le_zero.mp short)] at last
      cases last
    · exact isClosed
    · rw [List.length_eq_zero_iff.mp (Nat.le_zero.mp short)] at last
      cases last
  | succ n ih =>
    have round := iterate_round decode opened (ReadAnswer.drain outs).1 (ReadAnswer.drain errs).1
      (ReadAnswer.contents (ReadAnswer.drain outs).2)
      (ReadAnswer.contents (ReadAnswer.drain errs).2)
    obtain ⟨outCloses, errCloses⟩ :=
      ih (ReadAnswer.drain outs).2 (ReadAnswer.drain errs).2 round.closed
    refine ⟨fun closing => outCloses ?_, fun closing => errCloses ?_⟩
    · rw [round.outOpen]
      exact ReadAnswer.closes_drain closing
    · rw [round.errOpen]
      exact ReadAnswer.closes_drain closing

/-- However the two streams are cut into reads, and in whatever order their reads are taken in,
the lines that are handed on until both have ended are the lines of the whole streams. Both have
ended after as many rounds as there are reads, if their reads come to an end at all. -/
theorem whole_lines_are_handed_on (n : Nat) (outs errs : List ReadAnswer) {t : Transport}
    (opened : t.closed = false) (begun : t.reader.outRest = [] ∧ t.reader.errRest = []) :
    (ReadAnswer.ends outs → ReadAnswer.ends errs → outs.length ≤ n → errs.length ≤ n →
      (t.readRounds decode n outs errs).1.reader.isBusy = false) ∧
    ((t.readRounds decode n outs errs).1.reader.isBusy = false →
      linesOf .out (t.readRounds decode n outs errs).2 =
          (if t.reader.outOpen then Lines.ofStream (ReadAnswer.contents outs) else []) ∧
        linesOf .err (t.readRounds decode n outs errs).2 =
          if t.reader.errOpen then Lines.ofStream (ReadAnswer.contents errs) else []) := by
  obtain ⟨outCloses, errCloses⟩ := readRounds_open decode n outs errs opened
  obtain ⟨flushed, outLater, errLater, gives⟩ :=
    readRounds_gives decode n outs errs opened fun _ => begun.2
  refine ⟨fun outEnds errEnds outShort errShort => ?_, fun idle => ?_⟩
  · rw [Reader.isBusy, outCloses (.inr ⟨outEnds, outShort⟩), errCloses (.inr ⟨errEnds, errShort⟩)]
    rfl
  · obtain ⟨outClosed, errClosed⟩ := Bool.or_eq_false_iff.mp idle
    have out := gives.out
    have err := gives.err
    -- Nothing is due any more, and at the beginning everything was.
    rw [outDue_of_closed _ outClosed, List.append_nil, outDue, begun.1, List.nil_append] at out
    have blank : (Lines.counted? []).toList = [] := rfl
    rw [errDue_of_closed _ errClosed, flushed idle, errDue, begun.2, List.nil_append, blank,
      List.append_nil] at err
    exact ⟨out.symm, err.symm⟩

/-- A carriage return and its newline come in different reads, standard output ends first, and
neither stream ends with a newline. -/
theorem torn_lines_are_handed_on :
    let outs : List ReadAnswer :=
      [.bytes "one\r", .nothingYet, .bytes "\n\r\ntw", .bytes "o", .ended]
    let errs : List ReadAnswer :=
      [.bytes "\nwar", .interrupted, .nothingYet, .nothingYet, .bytes "ning", .nothingYet, .failed]
    let r := ({} : Transport).readRounds (fun _ => .noise) 7 outs errs
    r.1.reader.isBusy = false ∧
      linesOf .out r.2 = ([("one" : Text), "two"]) ∧ linesOf .err r.2 = [("warning" : Text)] := by
  intro outs errs r
  obtain ⟨closes, whole⟩ :=
    whole_lines_are_handed_on (fun _ => .noise) 7 outs errs (t := {}) rfl ⟨rfl, rfl⟩
  have idle := closes rfl rfl (by decide) (by decide)
  obtain ⟨out, err⟩ := whole idle
  exact ⟨idle, out.trans (by decide), err.trans (by decide)⟩

end Transport

end ProviderHost
