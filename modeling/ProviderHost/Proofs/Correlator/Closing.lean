import ProviderHost.Proofs.Correlator.Delivery

/-!
# Closing

Once a correlator was closed nobody hangs. Every entry has its outcome, new requests are refused
with the reason of the first closing, and all that is left to do is to collect the entries: each
move leaves a sublist of them (`pending_play_sublist`).
-/

namespace ProviderHost.Correlator

variable {π : Type}

/-- Whether every entry has an outcome. -/
def Settled (c : Correlator π) : Prop := ∀ e ∈ c.pending, e.2.isSome

theorem update_eq_self {c : Correlator π} {f : Int → Option (Outcome π) → Option (Outcome π)}
    (same : ∀ e ∈ c.pending, f e.1 e.2 = e.2) : c.update f = c := by
  have entries : c.pending.map (fun e => (e.1, f e.1 e.2)) = c.pending := by
    refine (List.map_congr_left fun e he => ?_).trans (List.map_id _)
    rw [same e he]
    rfl
  rw [update, entries]

theorem settled_update {c : Correlator π} {f : Int → Option (Outcome π) → Option (Outcome π)}
    (settles : ∀ e ∈ c.pending, (f e.1 e.2).isSome) : (c.update f).Settled := by
  intro e he
  obtain ⟨old, member, rfl⟩ := List.mem_map.mp he
  exact settles old member

theorem settled_close (reason : Fault) (c : Correlator π) : (c.close reason).Settled := by
  refine settled_update (c := c) (f := fun _ o => o <|> some (.error reason)) fun e _ => ?_
  rcases e.2 with _ | _ <;> rfl

theorem isSome_close (reason : Fault) (c : Correlator π) : (c.close reason).closed.isSome := by
  unfold Correlator.close
  cases c.closed <;> rfl

theorem isSome_of_slot {c : Correlator π} (settled : c.Settled) {id : Int}
    {o : Option (Outcome π)} (slot : c.slot? id = some o) : o.isSome := by
  obtain ⟨e, found, rfl⟩ := Option.map_eq_some_iff.mp slot
  exact settled e (List.mem_of_find?_eq_some found)

/-! ### Moves on a closed correlator -/

structure Final (reason : Fault) (d : Desk π) : Prop where
  closed : d.correlator.closed = some reason
  settled : d.correlator.Settled

variable {reason : Fault} {d : Desk π}

theorem Final.play_register (final : Final reason d) (id : Int) :
    d.play (.register id) = (.registered (.error (.given reason)), d) := by
  simp only [Desk.play, register, final.closed]

theorem Final.play_completing (final : Final reason d) (id : Int) (outcome : Outcome π) :
    d.play (.completing id outcome) = (.completed false, d) := by
  have same : d.correlator.complete id outcome = (false, d.correlator) := by
    refine Prod.ext ?_ ?_
    · cases slot : d.correlator.slot? id with
      | none => simp [complete, slot]
      | some o =>
        obtain ⟨x, rfl⟩ := Option.isSome_iff_exists.mp (isSome_of_slot final.settled slot)
        simp [complete, slot]
    · refine update_eq_self (f := fun i o => if i = id then o <|> some outcome else o)
        fun e he => ?_
      obtain ⟨x, present⟩ := Option.isSome_iff_exists.mp (final.settled e he)
      simp [present]
  cases outcome <;> simp only [Move.completing, Desk.play, resolve, fail, same]

theorem Final.play_close (final : Final reason d) (other : Fault) :
    d.play (.close other) = (.done, d) := by
  have same : d.correlator.update (fun _ o => o <|> some (.error other)) = d.correlator := by
    refine update_eq_self fun e he => ?_
    obtain ⟨x, present⟩ := Option.isSome_iff_exists.mp (final.settled e he)
    simp [present]
  simp only [Desk.play, close, same, final.closed]
  rw [show (some reason <|> some other) = d.correlator.closed from final.closed.symm]

theorem Final.play_wake_ne_timedOut (final : Final reason d) (id i : Int) :
    (d.play (.wake id)).1 ≠ .returned (.error (.timedOut i)) := by
  intro same
  cases slot : d.correlator.slot? id with
  | none => simp [Desk.play, collect, slot] at same
  | some o =>
    obtain ⟨x, rfl⟩ := Option.isSome_iff_exists.mp (isSome_of_slot final.settled slot)
    rw [play_wake_of_slot slot] at same
    rcases x with _ | _ <;> simp [verdict] at same

/-- Entries are only taken away. -/
theorem Final.pending_play_sublist (final : Final reason d) (m : Move π) :
    (d.play m).2.correlator.pending.Sublist d.correlator.pending := by
  cases m with
  | nextId => exact List.Sublist.refl _
  | register id => simp only [final.play_register, List.Sublist.refl]
  | resolve id reply =>
    have same := final.play_completing id (.ok reply)
    simp only [show Move.resolve id reply = .completing id (.ok reply) from rfl, same,
      List.Sublist.refl]
  | fail id cause =>
    have same := final.play_completing id (.error cause)
    simp only [show Move.fail id cause = .completing id (.error cause) from rfl, same,
      List.Sublist.refl]
  | enter id =>
    rw [play_enter]
    split <;> exact List.Sublist.refl _
  | wake id => exact List.filter_sublist
  | close other => simp only [final.play_close, List.Sublist.refl]

theorem Final.play (final : Final reason d) (m : Move π) : Final reason (d.play m).2 := by
  refine ⟨?_, fun e he => final.settled e ((final.pending_play_sublist m).subset he)⟩
  rw [closed_play, final.closed]
  cases m <;> rfl

theorem Final.run (final : Final reason d) (moves : List (Move π)) :
    Final reason (d.run moves) := by
  induction moves generalizing d with
  | nil => exact final
  | cons m moves ih => exact ih (final.play m)

theorem final_close {d : Desk π} (opened : d.correlator.closed = none) (reason : Fault) :
    Final reason (d.play (.close reason)).2 := by
  refine ⟨?_, settled_close reason d.correlator⟩
  rw [closed_play, opened]
  rfl

theorem closed_run_eq_none {moves : List (Move π)} (opened : ∀ r, .close r ∉ moves) {d : Desk π}
    (before : d.correlator.closed = none) : (d.run moves).correlator.closed = none := by
  induction moves generalizing d with
  | nil => exact before
  | cons m moves ih =>
    refine ih (fun r member => opened r (List.mem_cons_of_mem _ member)) ?_
    rw [closed_play, before]
    cases m with
    | close r => exact absurd List.mem_cons_self (opened r)
    | _ => rfl

/-! ### The outcome of an entry stays -/

theorem slot?_run_of_completed {id : Int} {outcome : Outcome π} {moves : List (Move π)}
    {d : Desk π} (slot : d.correlator.slot? id = some (some outcome)) (asleep : .wake id ∉ moves) :
    (d.run moves).correlator.slot? id = some (some outcome) := by
  induction moves generalizing d with
  | nil => exact slot
  | cons m moves ih =>
    simp only [List.mem_cons, not_or] at asleep
    refine ih ?_ asleep.2
    rw [slot?_play, slot]
    cases m with
    | wake i =>
      have other : i ≠ id := fun same => asleep.1 (by rw [same])
      simp [other]
    | _ => simp

/-- An entry that is there at the first closing keeps its outcome, or gets the reason as one. -/
theorem slot?_run_of_close {id : Int} {o : Option (Outcome π)} {later : List (Move π)}
    {d : Desk π} (slot : d.correlator.slot? id = some o) (reason : Fault)
    (asleep : .wake id ∉ later) :
    (((d.play (.close reason)).2).run later).correlator.slot? id =
      some (some (o.getD (.error reason))) := by
  refine slot?_run_of_completed ?_ asleep
  rw [slot?_play, slot]
  cases o <;> rfl

/-- From the first closing on every request is settled: whoever waits gets an outcome, whoever
comes is refused with the reason, and further completions and closings change nothing. -/
theorem first_closing_settles (before later : List (Move π)) (reason : Fault)
    (first : ∀ r, Move.close r ∉ before) :
    let d := after (before ++ .close reason :: later)
    (∀ e ∈ d.correlator.pending, e.2.isSome) ∧
    (∀ id i, (d.play (.wake id)).1 ≠ .returned (.error (.timedOut i))) ∧
    (∀ id, d.play (.register id) = (.registered (.error (.given reason)), d)) ∧
    (∀ id outcome, d.play (.completing id outcome) = (.completed false, d)) ∧
    (∀ other, d.play (.close other) = (.done, d)) ∧
    (∀ m, (d.play m).2.correlator.pending.Sublist d.correlator.pending) ∧
    (∀ id o, (after before).correlator.slot? id = some o → .wake id ∉ later →
      d.correlator.slot? id = some (some (o.getD (.error reason))) ∧
      (d.play (.wake id)).1 = .returned (verdict id (some (o.getD (.error reason))))) := by
  intro d
  have left : d = ((after before).play (.close reason)).2.run later := by
    simp only [d, Desk.run_append, Desk.run_cons]
  have opened : (after before).correlator.closed = none := closed_run_eq_none first rfl
  have final : Final reason d := left ▸ (final_close opened reason).run later
  refine ⟨final.settled, final.play_wake_ne_timedOut, final.play_register, final.play_completing,
    final.play_close, final.pending_play_sublist, fun id o slot asleep => ?_⟩
  have kept : d.correlator.slot? id = some (some (o.getD (.error reason))) :=
    left ▸ slot?_run_of_close slot reason asleep
  exact ⟨kept, play_wake_of_slot kept⟩

/-- The peer closes while one request has its reply and one has not; then the host closes too. -/
theorem second_closing_changes_nothing :
    let before : List (Move Nat) := [.register 1, .register 2, .resolve 1 10]
    let d := after (before ++ .close ended :: [.enter 2, .close unsent, .register 3])
    (∀ r, Move.close r ∉ before) ∧
      (d.play (.wake 1)).1 = .returned (.ok 10) ∧
      (d.play (.wake 2)).1 = .returned (.error (.given ended)) ∧
      d.play (.register 2) = (.registered (.error (.given ended)), d) := by
  intro before d
  have first : ∀ r, Move.close r ∉ before := by simp [before]
  obtain ⟨-, -, refused, -, -, -, kept⟩ :=
    first_closing_settles before [.enter 2, .close unsent, .register 3] ended first
  exact ⟨first, (kept 1 (some (.ok 10)) rfl (by simp)).2, (kept 2 none rfl (by simp)).2, refused 2⟩

end ProviderHost.Correlator
