import ProviderHost.Proofs.Correlator.Moves
import Mathlib.Data.List.Induction

/-!
# Delivery of replies

Every request gets the first outcome that is offered to it, and nobody else gets it. The entry of
an id is read off the history: it is there while a registration is open, and its outcome is the
first that was offered since (`slot?_after_iff`). A wait finds the registration under which it
began (`awaited_of_waiting`), and moves on other ids never matter (`transcript_filter`).
-/

namespace ProviderHost.Correlator

variable {π : Type}

/-! ### Other ids -/

structure Agree (id : Int) (d e : Desk π) : Prop where
  slot : d.correlator.slot? id = e.correlator.slot? id
  closed : d.correlator.closed = e.correlator.closed
  waits : d.waiting.count id = e.waiting.count id

theorem count_waiting_play (d : Desk π) (m : Move π) (id : Int) :
    (d.play m).2.waiting.count id =
      match m with
      | .enter i =>
        if i = id ∧ d.correlator.admits id then d.waiting.count id + 1 else d.waiting.count id
      | .wake i => if i = id then d.waiting.count id - 1 else d.waiting.count id
      | _ => d.waiting.count id := by
  cases m with
  | enter i =>
    simp only [Desk.play]
    by_cases h : i = id
    · subst h
      split <;> rename_i admitted <;> simp [admitted]
    · split <;> simp [h]
  | wake i =>
    by_cases h : i = id
    · subst h
      simp [Desk.play]
    · simp [Desk.play, List.count_erase_of_ne, h, Ne.symm h]
  | _ => rfl

/-- A move that does not concern an id shows nothing to its users. -/
theorem play_agree_of_not_concerns {id : Int} {d e : Desk π} {m : Move π}
    (agree : Agree id d e) (other : ¬ m.Concerns id) : Agree id (d.play m).2 e := by
  refine ⟨?_, ?_, ?_⟩
  · rw [slot?_play, ← agree.slot]
    cases m <;> simp_all [Move.Concerns, Move.offer?]
  · rw [closed_play, ← agree.closed]
    cases m <;> first | rfl | exact absurd trivial other
  · rw [count_waiting_play, ← agree.waits]
    cases m <;> simp_all [Move.Concerns]

theorem play_agree_of_concerns {id : Int} {d e : Desk π} {m : Move π}
    (agree : Agree id d e) (own : m.Concerns id) :
    (d.play m).1 = (e.play m).1 ∧ Agree id (d.play m).2 (e.play m).2 := by
  refine ⟨?_, ?_, ?_, ?_⟩
  · cases m with
    | nextId => exact own.elim
    | register i =>
      obtain rfl : i = id := own
      simp only [Desk.play, register, agree.slot, agree.closed]
      split
      · rfl
      · split <;> rfl
    | resolve i reply | fail i cause =>
      obtain rfl : i = id := own
      simp only [Desk.play, resolve, fail, complete, agree.slot]
    | enter i =>
      obtain rfl : i = id := own
      simp only [Desk.play, admits, agree.slot]
      split <;> rename_i present <;> simp [present]
    | wake i =>
      obtain rfl : i = id := own
      simp only [Desk.play, collect, agree.slot]
    | close reason => rfl
  · rw [slot?_play, slot?_play, agree.slot, agree.closed]
  · rw [closed_play, closed_play, agree.closed]
  · have same : d.correlator.admits id = e.correlator.admits id := by
      rw [admits, admits, agree.slot]
    rw [count_waiting_play, count_waiting_play, agree.waits, same]

theorem run_agree_filter {id : Int} {d e : Desk π} (agree : Agree id d e) (moves : List (Move π)) :
    Agree id (d.run moves) (e.run (moves.filter (·.Concerns id))) := by
  induction moves generalizing d e with
  | nil => exact agree
  | cons m moves ih =>
    by_cases own : m.Concerns id
    · rw [List.filter_cons_of_pos (by simpa using own), Desk.run_cons, Desk.run_cons]
      exact ih (play_agree_of_concerns agree own).2
    · rw [List.filter_cons_of_neg (by simpa using own), Desk.run_cons]
      exact ih (play_agree_of_not_concerns agree own)

/-- The answers to the users of an id are those they would get if nobody else were there. -/
theorem transcript_filter {id : Int} {d e : Desk π} (agree : Agree id d e)
    (moves : List (Move π)) :
    (d.transcript moves).filter (·.1.Concerns id) =
      e.transcript (moves.filter (·.Concerns id)) := by
  induction moves generalizing d e with
  | nil => rfl
  | cons m moves ih =>
    rw [Desk.transcript]
    by_cases own : m.Concerns id
    · obtain ⟨answer, next⟩ := play_agree_of_concerns agree own
      rw [List.filter_cons_of_pos (by simpa using own),
        List.filter_cons_of_pos (by simpa using own),
        Desk.transcript, ih next, answer]
    · rw [List.filter_cons_of_neg (by simpa using own),
        List.filter_cons_of_neg (by simpa using own)]
      exact ih (play_agree_of_not_concerns agree own)

theorem mem_waiting_iff_of_agree {id : Int} {d e : Desk π} (agree : Agree id d e) :
    id ∈ d.waiting ↔ id ∈ e.waiting := by
  rw [← List.count_pos_iff, agree.waits, List.count_pos_iff]

theorem agree_refl (id : Int) (d : Desk π) : Agree id d d := ⟨rfl, rfl, rfl⟩

theorem orderly_filter {moves : List (Move π)} (orderly : Orderly moves) (id : Int) :
    Orderly (moves.filter (·.Concerns id)) := by
  induction orderly with
  | nil => exact .nil
  | @concat moves m _ allowed ih =>
    rw [List.filter_append]
    by_cases own : m.Concerns id
    · rw [List.filter_cons_of_pos (by simpa using own)]
      have same := mem_waiting_iff_of_agree (run_agree_filter (agree_refl id {}) moves)
      refine .concat ih ?_
      cases m with
      | enter i =>
        obtain rfl : i = id := own
        exact fun present => allowed (same.mpr present)
      | wake i =>
        obtain rfl : i = id := own
        exact same.mp allowed
      | _ => trivial
    · rw [List.filter_cons_of_neg (by simpa using own), List.filter_nil, List.append_nil]
      exact ih

/-! ### The history of an entry -/

/-- After `moves` a registration of the id is open, and `later` is what was done since. -/
def OpenSince (id : Int) (moves later : List (Move π)) : Prop :=
  ∃ before, moves = before ++ .register id :: later ∧
    ((after before).play (.register id)).1 = .registered (.ok ()) ∧ .wake id ∉ later

theorem registered_ok_iff {d : Desk π} {id : Int} :
    (d.play (.register id)).1 = .registered (.ok ()) ↔
      d.correlator.closed = none ∧ d.correlator.slot? id = none := by
  simp only [Desk.play, register]
  cases closed : d.correlator.closed with
  | some reason => simp
  | none => cases slot : d.correlator.slot? id <;> simp

theorem openSince_concat {id : Int} {moves later : List (Move π)} {m : Move π} :
    OpenSince id (moves ++ [m]) later ↔
      (m = .register id ∧ later = [] ∧
        ((after moves).play (.register id)).1 = .registered (.ok ())) ∨
      ∃ init, later = init ++ [m] ∧ OpenSince id moves init ∧ m ≠ .wake id := by
  constructor
  · rintro ⟨before, same, accepted, asleep⟩
    rcases List.eq_nil_or_concat later with rfl | ⟨init, last, rfl⟩
    · obtain ⟨rfl, single⟩ := List.append_inj' same rfl
      exact .inl ⟨List.singleton_inj.mp single, rfl, accepted⟩
    · rw [List.concat_eq_append] at same asleep ⊢
      have split : moves ++ [m] = (before ++ .register id :: init) ++ [last] := by simpa using same
      obtain ⟨rfl, single⟩ := List.append_inj' split rfl
      obtain rfl := List.singleton_inj.mp single
      simp only [List.mem_append, List.mem_singleton, not_or] at asleep
      exact .inr ⟨init, rfl, ⟨before, rfl, accepted, asleep.1⟩, Ne.symm asleep.2⟩
  · rintro (⟨rfl, rfl, accepted⟩ | ⟨init, rfl, ⟨before, rfl, accepted, asleep⟩, other⟩)
    · exact ⟨moves, rfl, accepted, List.not_mem_nil⟩
    · refine ⟨before, by simp, accepted, ?_⟩
      simp only [List.mem_append, List.mem_singleton, not_or]
      exact ⟨asleep, Ne.symm other⟩

theorem firstOffer?_concat (id : Int) (moves : List (Move π)) (m : Move π) :
    firstOffer? id (moves ++ [m]) = (firstOffer? id moves <|> m.offer? id) := by
  simp only [firstOffer?, List.findSome?_append, List.findSome?_cons, List.findSome?_nil]
  cases moves.findSome? (·.offer? id) <;> cases m.offer? id <;> rfl

/-- What the last move adds to the registration that is open and to the outcome offered since. -/
theorem exists_openSince_concat {id : Int} {moves : List (Move π)} {m : Move π}
    {o : Option (Outcome π)} :
    (∃ later, OpenSince id (moves ++ [m]) later ∧ firstOffer? id later = o) ↔
      (m = .register id ∧ (after moves).correlator.closed = none ∧
        (after moves).correlator.slot? id = none ∧ o = none) ∨
      (m ≠ .wake id ∧ ∃ init, OpenSince id moves init ∧
        (firstOffer? id init <|> m.offer? id) = o) := by
  constructor
  · rintro ⟨later, opened, rfl⟩
    rcases openSince_concat.mp opened with ⟨rfl, rfl, accepted⟩ | ⟨init, rfl, opened, other⟩
    · obtain ⟨closed, slot⟩ := registered_ok_iff.mp accepted
      exact .inl ⟨rfl, closed, slot, rfl⟩
    · exact .inr ⟨other, init, opened, (firstOffer?_concat id init m).symm⟩
  · rintro (⟨rfl, closed, slot, rfl⟩ | ⟨other, init, opened, rfl⟩)
    · have accepted := registered_ok_iff.mpr ⟨closed, slot⟩
      exact ⟨[], openSince_concat.mpr (.inl ⟨rfl, rfl, accepted⟩), rfl⟩
    · exact ⟨init ++ [m], openSince_concat.mpr (.inr ⟨init, rfl, opened, other⟩),
        firstOffer?_concat id init m⟩

theorem slot?_after_iff {id : Int} {moves : List (Move π)} {o : Option (Outcome π)} :
    (after moves).correlator.slot? id = some o ↔
      ∃ later, OpenSince id moves later ∧ firstOffer? id later = o := by
  induction moves using List.reverseRecOn generalizing o with
  | nil =>
    constructor
    · intro slot
      cases slot
    · rintro ⟨later, ⟨before, same, -⟩, -⟩
      simp at same
  | append_singleton moves m ih =>
    have before : (∃ init, OpenSince id moves init ∧ (firstOffer? id init <|> m.offer? id) = o) ↔
        ∃ o', (after moves).correlator.slot? id = some o' ∧ (o' <|> m.offer? id) = o := by
      constructor
      · rintro ⟨init, opened, same⟩
        exact ⟨_, ih.mpr ⟨init, opened, rfl⟩, same⟩
      · rintro ⟨o', slot, same⟩
        obtain ⟨init, opened, rfl⟩ := ih.mp slot
        exact ⟨init, opened, same⟩
    rw [exists_openSince_concat, before, after_concat, slot?_play]
    cases m with
    | register i =>
      by_cases own : i = id
      · subst own
        cases slot : (after moves).correlator.slot? i with
        | none => cases closed : (after moves).correlator.closed <;> simp [eq_comm]
        | some o' => simp [Move.offer?]
      · simp [own, Move.offer?]
    | wake i =>
      by_cases own : i = id
      · simp [own]
      · simp [own, Move.offer?]
    | _ => simp

theorem slot?_after_eq_none_iff {id : Int} {moves : List (Move π)} :
    (after moves).correlator.slot? id = none ↔ ¬ ∃ later, OpenSince id moves later := by
  rw [Option.eq_none_iff_forall_ne_some, not_exists]
  constructor
  · intro absent later opened
    exact absent _ (slot?_after_iff.mpr ⟨later, opened, rfl⟩)
  · intro closed o slot
    obtain ⟨later, opened, -⟩ := slot?_after_iff.mp slot
    exact closed later opened

theorem OpenSince.unique {id : Int} {moves a b : List (Move π)} (ha : OpenSince id moves a)
    (hb : OpenSince id moves b) : a = b := by
  -- The later of two would have been refused, since the earlier one was still open.
  have refused : ∀ {before mid : List (Move π)},
      ((after before).play (.register id)).1 = .registered (.ok ()) → .wake id ∉ mid →
      ((after (before ++ .register id :: mid)).play (.register id)).1 ≠ .registered (.ok ()) := by
    intro before mid accepted asleep again
    have slot := (registered_ok_iff.mp again).2
    exact slot?_after_eq_none_iff.mp slot ⟨mid, before, rfl, accepted, asleep⟩
  obtain ⟨before, rfl, acceptedA, asleepA⟩ := ha
  obtain ⟨before', same, acceptedB, asleepB⟩ := hb
  rcases List.append_eq_append_iff.mp same with ⟨mid, rfl, rest⟩ | ⟨mid, rfl, rest⟩
  · rcases List.cons_eq_append_iff.mp rest with ⟨rfl, rest⟩ | ⟨mid, rfl, rfl⟩
    · exact (List.cons.inj rest).2
    · exact absurd acceptedB (refused acceptedA fun wake => asleepA (List.mem_append_left _ wake))
  · rcases List.cons_eq_append_iff.mp rest with ⟨rfl, rest⟩ | ⟨mid, rfl, rfl⟩
    · exact (List.cons.inj rest).2.symm
    · exact absurd acceptedA (refused acceptedB fun wake => asleepB (List.mem_append_left _ wake))

/-! ### Waits in progress -/

/-- A wait on the id is in progress. The registration that it found when it began had been
followed by `between`, and `later` is what was done since it began. -/
def Awaited (id : Int) (moves between later : List (Move π)) : Prop :=
  ∃ start, moves = start ++ .enter id :: later ∧ OpenSince id start between ∧
    .enter id ∉ later ∧ .wake id ∉ later

/-- The registration that a wait has found stays open while it waits. -/
theorem Awaited.openSince {id : Int} {moves between later : List (Move π)}
    (awaited : Awaited id moves between later) :
    OpenSince id moves (between ++ .enter id :: later) := by
  obtain ⟨start, rfl, ⟨before, rfl, accepted, asleep⟩, -, waits⟩ := awaited
  refine ⟨before, by simp, accepted, ?_⟩
  simp only [List.mem_append, List.mem_cons, reduceCtorEq, false_or, not_or]
  exact ⟨asleep, waits⟩

theorem Awaited.concat {id : Int} {moves between later : List (Move π)} {m : Move π}
    (awaited : Awaited id moves between later) (notEnter : m ≠ .enter id) (notWake : m ≠ .wake id) :
    Awaited id (moves ++ [m]) between (later ++ [m]) := by
  obtain ⟨start, rfl, opened, enters, wakes⟩ := awaited
  refine ⟨start, by simp, opened, ?_, ?_⟩
  · simpa using ⟨enters, Ne.symm notEnter⟩
  · simpa using ⟨wakes, Ne.symm notWake⟩

theorem count_waiting_le_one {moves : List (Move π)} (orderly : Orderly moves) (id : Int) :
    (after moves).waiting.count id ≤ 1 := by
  induction orderly with
  | nil => simp
  | @concat moves m _ allowed ih =>
    rw [after_concat, count_waiting_play]
    cases m with
    | enter i =>
      dsimp only
      split
      · rename_i own
        obtain ⟨rfl, -⟩ := own
        have fresh : (after moves).waiting.count i = 0 := List.count_eq_zero.mpr allowed
        omega
      · exact ih
    | wake i => dsimp only; split <;> omega
    | _ => exact ih

theorem awaited_of_waiting {moves : List (Move π)} {id : Int} (orderly : Orderly moves)
    (waiting : id ∈ (after moves).waiting) : ∃ between later, Awaited id moves between later := by
  induction orderly with
  | nil => cases waiting
  | @concat moves m orderly allowed ih =>
    have one := count_waiting_le_one orderly id
    rw [after_concat, ← List.count_pos_iff, count_waiting_play] at waiting
    by_cases notEnter : m = .enter id
    · -- The wait begins with this move.
      subst notEnter
      have fresh : (after moves).waiting.count id = 0 := List.count_eq_zero.mpr allowed
      simp only [fresh] at waiting
      split at waiting
      · rename_i admitted
        obtain ⟨o, slot⟩ := Option.isSome_iff_exists.mp admitted.2
        obtain ⟨between, opened, -⟩ := slot?_after_iff.mp slot
        exact ⟨between, [], moves, rfl, opened, List.not_mem_nil, List.not_mem_nil⟩
      · omega
    · by_cases notWake : m = .wake id
      · subst notWake
        simp only [if_true] at waiting
        omega
      · have before : 0 < (after moves).waiting.count id := by
          cases m <;> simp_all
        obtain ⟨between, later, awaited⟩ := ih (List.count_pos_iff.mp before)
        exact ⟨between, later ++ [m], awaited.concat notEnter notWake⟩

/-! ### What the users of an id are answered -/

/-- The move that completes a request with an outcome. -/
def Move.completing (id : Int) : Outcome π → Move π
  | .ok reply => .resolve id reply
  | .error cause => .fail id cause

/-- What a wait returns for an entry with this outcome, or with none. -/
def verdict (id : Int) : Option (Outcome π) → Except RequestFault π
  | none => .error (.timedOut id)
  | some (.ok reply) => .ok reply
  | some (.error cause) => .error (.given cause)

theorem play_register_of_slot {d : Desk π} {id : Int} {o : Option (Outcome π)}
    (slot : d.correlator.slot? id = some o) :
    ∃ cause, d.play (.register id) = (.registered (.error cause), d) := by
  simp only [Desk.play, register]
  cases d.correlator.closed with
  | some reason => exact ⟨.given reason, rfl⟩
  | none =>
    rw [slot]
    exact ⟨.idTaken id, rfl⟩

theorem slot?_play_completing (d : Desk π) (id i : Int) (outcome : Outcome π) :
    (d.play (.completing id outcome)).2.correlator.slot? i =
      (d.correlator.slot? i).map fun o => o <|> if i = id then some outcome else none := by
  cases outcome <;> rw [Move.completing, slot?_play] <;> simp [Move.offer?, eq_comm]

/-- A completion succeeds exactly on an entry without an outcome, and else changes no entry. -/
theorem play_completing (d : Desk π) (id : Int) (outcome : Outcome π) :
    ∃ first : Bool, (d.play (.completing id outcome)).1 = .completed first ∧
      (first = true ↔ d.correlator.slot? id = some none) ∧
      ∀ i, (d.play (.completing id outcome)).2.correlator.slot? i =
        if i = id ∧ first = true then some (some outcome) else d.correlator.slot? i := by
  refine ⟨(d.correlator.complete id outcome).1, by cases outcome <;> rfl, ?_, ?_⟩
  · simp only [complete]
    rcases d.correlator.slot? id with _ | _ | _ <;> simp
  · intro i
    rw [slot?_play_completing]
    by_cases own : i = id
    · subst own
      simp only [complete]
      rcases d.correlator.slot? i with _ | _ | _ <;> simp
    · rcases d.correlator.slot? i with _ | _ | _ <;> simp [own]

theorem play_enter (d : Desk π) (id : Int) :
    d.play (.enter id) =
      if d.correlator.slot? id = none then (.returned (.error (.notPending id)), d)
      else (.admitted, { d with waiting := id :: d.waiting }) := by
  cases slot : d.correlator.slot? id <;> simp [Desk.play, admits, slot]

theorem play_wake_of_slot {d : Desk π} {id : Int} {o : Option (Outcome π)}
    (slot : d.correlator.slot? id = some o) :
    (d.play (.wake id)).1 = .returned (verdict id o) := by
  simp only [Desk.play, collect, slot]
  rcases o with _ | _ | _ <;> rfl

theorem Awaited.play_wake {id : Int} {moves between later : List (Move π)}
    (awaited : Awaited id moves between later) :
    ((after moves).play (.wake id)).1 =
      .returned (verdict id (firstOffer? id (between ++ later))) := by
  have slot := slot?_after_iff.mpr ⟨_, awaited.openSince, rfl⟩
  rw [play_wake_of_slot slot]
  simp [firstOffer?, List.findSome?_append, Move.offer?]

/-- Every request gets the first outcome that is offered to it after its registration, and only
the one that waits for it gets it. -/
theorem first_outcome_is_delivered {moves : List (Move π)} (orderly : Orderly moves) (id : Int) :
    -- Nothing but the moves that name the id, and the closings, shows to its users.
    Orderly (moves.filter (·.Concerns id)) ∧
    (({} : Desk π).transcript moves).filter (·.1.Concerns id) =
      ({} : Desk π).transcript (moves.filter (·.Concerns id)) ∧
    -- The entry of the id is that of its open registration, of which there is one at most.
    (∀ a b, OpenSince id moves a → OpenSince id moves b → a = b) ∧
    (∀ o, (after moves).correlator.slot? id = some o ↔
      ∃ later, OpenSince id moves later ∧ firstOffer? id later = o) ∧
    -- While there is one, the id is not registered again, and the refusal changes nothing.
    ((∃ later, OpenSince id moves later) →
      ∃ cause, (after moves).play (.register id) = (.registered (.error cause), after moves)) ∧
    -- A completion answers whether it is the one that completes the request.
    (∀ outcome, ∃ first : Bool,
      ((after moves).play (.completing id outcome)).1 = .completed first ∧
      (first = true ↔ ∃ later, OpenSince id moves later ∧ firstOffer? id later = none) ∧
      ∀ i, ((after moves).play (.completing id outcome)).2.correlator.slot? i =
        if i = id ∧ first = true then some (some outcome) else (after moves).correlator.slot? i) ∧
    -- A wait is refused when it begins exactly if there is no entry.
    (((after moves).play (.enter id)).1 = .returned (.error (.notPending id)) ↔
      ¬ ∃ later, OpenSince id moves later) ∧
    (((after moves).play (.enter id)).1 = .admitted ↔ ∃ later, OpenSince id moves later) ∧
    -- One that was admitted returns the first outcome offered since the registration it found.
    (id ∈ (after moves).waiting → ∃ between later, Awaited id moves between later ∧
      ((after moves).play (.wake id)).1 =
        .returned (verdict id (firstOffer? id (between ++ later))) ∧
      ((after moves).play (.wake id)).2.correlator.slot? id = none) := by
  refine ⟨orderly_filter orderly id, transcript_filter (agree_refl id {}) moves,
    fun a b => OpenSince.unique, fun o => slot?_after_iff, ?_, ?_, ?_, ?_, ?_⟩
  · rintro ⟨later, opened⟩
    exact play_register_of_slot (slot?_after_iff.mpr ⟨later, opened, rfl⟩)
  · intro outcome
    obtain ⟨first, answer, exactly, entries⟩ := play_completing (after moves) id outcome
    exact ⟨first, answer, exactly.trans slot?_after_iff, entries⟩
  · rw [← slot?_after_eq_none_iff, play_enter]
    split <;> rename_i slot <;> simp [slot]
  · rw [← not_iff_not, ← slot?_after_eq_none_iff, play_enter]
    split <;> rename_i slot <;> simp [slot]
  · intro waiting
    obtain ⟨between, later, awaited⟩ := awaited_of_waiting orderly waiting
    refine ⟨between, later, awaited, awaited.play_wake, ?_⟩
    rw [slot?_play]
    simp

/-- The failure of a request that could not be sent. -/
def unsent : Fault := { category := .transport, message := "broken pipe", code := "write_failed" }

/-- The reason of a closing by the peer. -/
def ended : Fault := { category := .transport, message := "end of stream", code := "closed" }

/-- Two requests whose replies cross, one of which fails before its reply comes. -/
def crossing : List (Move Nat) :=
  [.register 1, .enter 1, .register 2, .resolve 2 20, .fail 1 unsent, .resolve 1 10, .enter 2,
    .close ended]

theorem orderly_crossing : Orderly crossing :=
  Orderly.nil.concat (m := .register 1) (by decide)
    |>.concat (m := .enter 1) (by decide)
    |>.concat (m := .register 2) (by decide)
    |>.concat (m := .resolve 2 20) (by decide)
    |>.concat (m := .fail 1 unsent) (by decide)
    |>.concat (m := .resolve 1 10) (by decide)
    |>.concat (m := .enter 2) (by decide)
    |>.concat (m := .close ended) (by decide)

/-- The first request of `crossing` gets its failure, not its reply nor the closing. -/
theorem crossing_is_delivered :
    Orderly crossing ∧ 1 ∈ (after crossing).waiting ∧
      (∃ between later, Awaited 1 crossing between later ∧
        ((after crossing).play (.wake 1)).1 =
          .returned (verdict 1 (firstOffer? 1 (between ++ later))) ∧
        ((after crossing).play (.wake 1)).2.correlator.slot? 1 = none) ∧
      ((after crossing).play (.wake 1)).1 = .returned (.error (.given unsent)) := by
  obtain ⟨-, -, -, -, -, -, -, -, delivered⟩ := first_outcome_is_delivered orderly_crossing 1
  have waiting : 1 ∈ (after crossing).waiting := by decide
  exact ⟨orderly_crossing, waiting, delivered waiting, rfl⟩

end ProviderHost.Correlator
