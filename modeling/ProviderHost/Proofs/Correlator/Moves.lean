import ProviderHost.Correlator

/-!
# Moves on a correlator

What the users of a correlator do, one move at a time and in any order. A wait is two moves, its
beginning and its waking, and others may move in between. `slot?_play` says what one move does to
the entry of an id: a registration makes it, a waking removes it, and of the rest only the first
completion counts.
-/

namespace ProviderHost.Correlator

variable {π : Type}

/-- What somebody does with a correlator. -/
inductive Move (π : Type) where
  | nextId
  | register (id : Int)
  | resolve (id : Int) (reply : π)
  | fail (id : Int) (cause : Fault)
  | enter (id : Int)
  /-- A wait ends: its request was completed, or its deadline has passed. -/
  | wake (id : Int)
  | close (reason : Fault)

inductive Answer (π : Type) where
  | drawn (id : Int)
  | registered (result : Except RequestFault Unit)
  | completed (first : Bool)
  | admitted
  | returned (result : Except RequestFault π)
  | done

/-- A correlator with the ids on which a wait is in progress. -/
structure Desk (π : Type) where
  correlator : Correlator π := {}
  waiting : List Int := []

def Move.offer? (id : Int) : Move π → Option (Outcome π)
  | .resolve i reply => if i = id then some (.ok reply) else none
  | .fail i cause => if i = id then some (.error cause) else none
  | .close reason => some (.error reason)
  | _ => none

/-- The outcome that some moves bring to a request that has none before them. -/
def firstOffer? (id : Int) (moves : List (Move π)) : Option (Outcome π) :=
  moves.findSome? (·.offer? id)

/-- Whether a move may matter to an id: it names the id, or closes the correlator. -/
def Move.Concerns (id : Int) : Move π → Prop
  | .nextId => False
  | .register i | .resolve i _ | .fail i _ | .enter i | .wake i => i = id
  | .close _ => True

instance (id : Int) : DecidablePred (Move.Concerns (π := π) id) := fun m => by
  cases m <;> unfold Move.Concerns <;> infer_instance

namespace Desk

/-- A move: its answer, and what it leaves. -/
def play (d : Desk π) : Move π → Answer π × Desk π
  | .nextId => (.drawn d.correlator.nextId.1, { d with correlator := d.correlator.nextId.2 })
  | .register id =>
    (.registered (d.correlator.register id).1,
      { d with correlator := (d.correlator.register id).2 })
  | .resolve id reply =>
    (.completed (d.correlator.resolve id reply).1,
      { d with correlator := (d.correlator.resolve id reply).2 })
  | .fail id cause =>
    (.completed (d.correlator.fail id cause).1,
      { d with correlator := (d.correlator.fail id cause).2 })
  | .enter id =>
    if d.correlator.admits id then (.admitted, { d with waiting := id :: d.waiting })
    else (.returned (.error (.notPending id)), d)
  | .wake id =>
    (.returned (d.correlator.collect id).1,
      { correlator := (d.correlator.collect id).2, waiting := d.waiting.erase id })
  | .close reason => (.done, { d with correlator := d.correlator.close reason })

/-- Whether a move can happen: an id has at most one wait in progress, and only that one wakes. -/
def Allows (d : Desk π) : Move π → Prop
  | .enter id => id ∉ d.waiting
  | .wake id => id ∈ d.waiting
  | _ => True

instance (d : Desk π) : DecidablePred d.Allows := fun m => by
  cases m <;> unfold Allows <;> infer_instance

/-- The moves of a list, each with its answer. -/
def transcript (d : Desk π) : List (Move π) → List (Move π × Answer π)
  | [] => []
  | m :: moves => (m, (d.play m).1) :: (d.play m).2.transcript moves

def run (d : Desk π) (moves : List (Move π)) : Desk π := moves.foldl (fun d m => (d.play m).2) d

@[simp] theorem run_nil (d : Desk π) : d.run [] = d := rfl

@[simp] theorem run_cons (d : Desk π) (m : Move π) (moves : List (Move π)) :
    d.run (m :: moves) = (d.play m).2.run moves := rfl

theorem run_append (d : Desk π) (moves more : List (Move π)) :
    d.run (moves ++ more) = (d.run moves).run more := List.foldl_append

theorem run_concat (d : Desk π) (moves : List (Move π)) (m : Move π) :
    d.run (moves ++ [m]) = ((d.run moves).play m).2 := by
  rw [run_append, run_cons, run_nil]

end Desk

/-- What a history of moves leaves of a fresh correlator. -/
abbrev after (moves : List (Move π)) : Desk π := ({} : Desk π).run moves

theorem after_concat (moves : List (Move π)) (m : Move π) :
    after (moves ++ [m]) = ((after moves).play m).2 := Desk.run_concat _ _ _

/-- The histories in which every move can happen when it does. -/
inductive Orderly : List (Move π) → Prop where
  | nil : Orderly []
  | concat {moves : List (Move π)} {m : Move π} :
      Orderly moves → (after moves).Allows m → Orderly (moves ++ [m])

/-- A wait during which nobody else moves is the two moves of a wait. -/
theorem play_wait (d : Desk π) (id : Int) :
    match d.play (.enter id) with
    | (.admitted, e) =>
      e.play (.wake id) =
        (.returned (d.correlator.wait id).1, { d with correlator := (d.correlator.wait id).2 })
    | (answer, e) =>
      answer = .returned (d.correlator.wait id).1 ∧
        e = { d with correlator := (d.correlator.wait id).2 } := by
  unfold Desk.play wait
  dsimp only
  cases admitted : d.correlator.admits id <;> simp

/-! ### What one move does -/

theorem slot?_play (d : Desk π) (m : Move π) (id : Int) :
    (d.play m).2.correlator.slot? id =
      match m with
      | .register i =>
        if i = id ∧ d.correlator.closed = none ∧ d.correlator.slot? id = none then some none
        else d.correlator.slot? id
      | .wake i => if i = id then none else d.correlator.slot? id
      | m => (d.correlator.slot? id).map fun o => o <|> m.offer? id := by
  have keep : (d.correlator.slot? id).map (fun o => o <|> none) = d.correlator.slot? id := by
    cases d.correlator.slot? id <;> simp
  cases m with
  | nextId => exact keep.symm
  | register i =>
    refine (slot?_register id i d.correlator).trans ?_
    by_cases h : i = id
    · subst h
      simp
    · simp [h, Ne.symm h]
  | resolve i reply =>
    refine (slot?_complete id i (.ok reply) d.correlator).trans ?_
    by_cases h : i = id
    · simp [Move.offer?, h]
    · simp [Move.offer?, h, Ne.symm h]
  | fail i cause =>
    refine (slot?_complete id i (.error cause) d.correlator).trans ?_
    by_cases h : i = id
    · simp [Move.offer?, h]
    · simp [Move.offer?, h, Ne.symm h]
  | enter i =>
    refine Eq.trans ?_ keep.symm
    unfold Desk.play
    dsimp only
    split <;> rfl
  | wake i =>
    refine (slot?_collect id i d.correlator).trans ?_
    by_cases h : i = id
    · simp [h]
    · simp [h, Ne.symm h]
  | close reason => exact slot?_close id reason d.correlator

theorem register_snd (c : Correlator π) (id : Int) :
    ∃ entries, (c.register id).2 = { c with pending := entries } := by
  unfold register
  split
  · exact ⟨c.pending, rfl⟩
  · split
    · exact ⟨c.pending, rfl⟩
    · exact ⟨_, rfl⟩

theorem closed_play (d : Desk π) (m : Move π) :
    (d.play m).2.correlator.closed =
      match m with
      | .close reason => d.correlator.closed <|> some reason
      | _ => d.correlator.closed := by
  cases m with
  | register i =>
    obtain ⟨entries, left⟩ := register_snd d.correlator i
    rw [Desk.play, left]
  | enter i =>
    simp only [Desk.play]
    split <;> rfl
  | _ => rfl

theorem lastId_play (d : Desk π) (m : Move π) :
    (d.play m).2.correlator.lastId =
      match m with
      | .nextId => d.correlator.lastId + 1
      | _ => d.correlator.lastId := by
  cases m with
  | register i =>
    obtain ⟨entries, left⟩ := register_snd d.correlator i
    rw [Desk.play, left]
  | enter i =>
    simp only [Desk.play]
    split <;> rfl
  | _ => rfl

theorem admits_play (d : Desk π) (m : Move π) (id : Int) :
    (d.play m).2.correlator.admits id ↔
      match m with
      | .register i => i = id ∧ d.correlator.closed = none ∨ d.correlator.admits id
      | .wake i => i ≠ id ∧ d.correlator.admits id
      | _ => d.correlator.admits id := by
  simp only [admits, slot?_play]
  cases m with
  | register i =>
    cases slot : d.correlator.slot? id with
    | none => by_cases own : i = id <;> by_cases opened : d.correlator.closed = none <;> simp [*]
    | some o => simp
  | wake i => by_cases own : i = id <;> simp [own]
  | _ => simp

end ProviderHost.Correlator
