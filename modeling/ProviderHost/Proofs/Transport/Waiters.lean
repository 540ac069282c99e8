import ProviderHost.Proofs.Transport.WireSteps

/-!
# Those who wait on a transport

Every caller draws an id of its own and has an entry until it collects it (`Held`). Once the
requests were closed every entry has its outcome (`IsSettled`).
-/

namespace ProviderHost

open Correlator (Move Desk)

namespace Wire

variable {codec : Codec} {s : Settings} {w y : Wire} {e : WireEvent}

def IsSettled (w : Wire) : Prop :=
  w.transport.requests.closed.isSome → w.transport.requests.Settled

theorem final_moved {reason : Fault} {c : Correlator Text} (m : Option (Move Text))
    (final : Correlator.Final reason { correlator := c }) :
    Correlator.Final reason { correlator := c.moved m } := by
  cases m with
  | none => exact final
  | some m => exact ⟨(final.play m).closed, (final.play m).settled⟩

theorem step_final {reason : Fault}
    (final : Correlator.Final reason { correlator := w.transport.requests })
    (stepped : w.step codec s e = some y) :
    Correlator.Final reason { correlator := y.transport.requests } := by
  rw [requests_step stepped]
  exact final_moved (w.move? codec e) final

theorem step_settled (settled : w.IsSettled) (stepped : w.step codec s e = some y) :
    y.IsSettled := by
  intro closed
  rw [requests_step stepped] at closed ⊢
  cases before : w.transport.requests.closed with
  | some reason =>
    have final : Correlator.Final reason { correlator := w.transport.requests } :=
      ⟨before, settled (by rw [before]; rfl)⟩
    exact (final_moved (w.move? codec e) final).settled
  | none =>
    rw [Correlator.closed_moved, before] at closed
    split at closed
    · rename_i reason move
      rw [move]
      exact
        (Correlator.final_close (d := { correlator := w.transport.requests }) before reason).settled
    · cases closed

def Stage.id? : Stage → Option Int
  | registering id | sending id | failing id _ | entering id | asleep id => some id
  | _ => none

def Stage.isEntered : Stage → Bool
  | sending _ | failing _ _ | entering _ | asleep _ => true
  | _ => false

/-- Callers have ids of their own, and their entries stay until they collect them. -/
structure Held (w : Wire) : Prop where
  bounded : ∀ {n : Nat} {call : Call} {id : Int}, w.calls[n]? = some call →
    call.stage.id? = some id → id ≤ w.transport.requests.lastId
  distinct : ∀ {m n : Nat} {c d : Call} {id : Int}, w.calls[m]? = some c → w.calls[n]? = some d →
    c.stage.id? = some id → d.stage.id? = some id → m = n
  entered : ∀ {n : Nat} {call : Call} {id : Int}, w.calls[n]? = some call →
    call.stage.id? = some id → call.stage.isEntered → (w.transport.requests.slot? id).isSome

theorem id?_next {d : Demand} {stage next : Stage} {id : Int}
    (follows : stage.next? codec s d w = some next) (own : next.id? = some id) :
    (stage.id? = some id ∧ ∀ i, stage ≠ .asleep i) ∨
      (stage = .drawing ∧ id = w.transport.requests.lastId + 1) := by
  cases stage with
  | drawing =>
    cases follows
    cases own
    exact .inr ⟨rfl, rfl⟩
  | registering i | entering i =>
    refine .inl ⟨?_, by rintro _ ⟨⟩⟩
    unfold Stage.next? at follows
    dsimp only at follows
    split at follows <;> cases follows <;> cases own
    rfl
  | failing i cause =>
    cases follows
    exact .inl ⟨own, by rintro _ ⟨⟩⟩
  | asking =>
    unfold Stage.next? at follows
    dsimp only at follows
    split at follows <;> cases follows
    · cases own
    · split at own <;> cases own
  | checking =>
    cases follows
    split at own <;> cases own
  | connecting | parting =>
    unfold Stage.next? at follows
    dsimp only at follows
    split at follows <;> cases follows <;> cases own
  | answered result =>
    cases follows
    cases d <;> cases own
  | asleep | forgetting =>
    cases follows
    cases own
  | sending | notifying | finished => cases follows

theorem id?_sent {stage next : Stage} {id : Int} {delivered : Except SendFault Unit}
    (follows : stage.sent? delivered = some next) (own : next.id? = some id) :
    stage.id? = some id ∧ stage.isEntered := by
  cases stage with
  | sending i =>
    unfold Stage.sent? at follows
    dsimp only at follows
    split at follows <;> cases follows <;> exact ⟨own, rfl⟩
  | notifying response =>
    cases follows
    cases own
  | _ => cases follows

/-- An id that a caller has after a step it had before, or it has just drawn it. -/
theorem id?_became {m : Nat} {call : Call} {id : Int} (became : Became codec s w m e call)
    (own : call.stage.id? = some id) :
    (∃ before, w.calls[m]? = some before ∧ before.stage.id? = some id) ∨
      (e = .advance m ∧ w.move? codec e = some .nextId ∧
        id = w.transport.requests.lastId + 1) := by
  cases became with
  | same _ before => exact .inl ⟨call, before, own⟩
  | asked d => cases own
  | @advanced d stage next before follows =>
    rcases id?_next follows own with ⟨had, -⟩ | ⟨rfl, drawn⟩
    · exact .inl ⟨⟨d, stage⟩, before, had⟩
    · exact .inr ⟨rfl, move?_advance before, drawn⟩
  | @sent d stage next failure before follows =>
    exact .inl ⟨⟨d, stage⟩, before, (id?_sent follows own).1⟩

theorem isEntered_next {n : Nat} {d : Demand} {stage next : Stage} {id : Int}
    (present : w.calls[n]? = some ⟨d, stage⟩) (stepped : w.step codec s (.advance n) = some y)
    (follows : stage.next? codec s d w = some next) (own : next.id? = some id)
    (entered : next.isEntered) :
    stage.isEntered ∨ (y.transport.requests.slot? id).isSome := by
  cases stage with
  | registering i =>
    unfold Stage.next? at follows
    dsimp only at follows
    split at follows <;> cases follows
    · rename_i registered
      cases own
      rw [requests_step stepped, move?_advance present]
      exact .inr (Correlator.isSome_slot?_registered registered)
    · cases own
  | drawing =>
    cases follows
    cases entered
  | failing | entering | asleep | sending => exact .inl rfl
  | asking | checking | connecting | answered | parting | notifying | forgetting | finished =>
    rcases id?_next follows own with ⟨had, -⟩ | ⟨drawing, -⟩
    · cases had
    · cases drawing

theorem Held.slot? {n : Nat} {d : Demand} {id : Int} (held : w.Held)
    (asleep : w.calls[n]? = some ⟨d, .asleep id⟩) :
    ∃ o, w.transport.requests.slot? id = some o :=
  Option.isSome_iff_exists.mp (held.entered asleep rfl rfl)

theorem step_held (held : w.Held) (stepped : w.step codec s e = some y) : y.Held where
  bounded {n call id} present own := by
    rw [requests_step stepped]
    rcases id?_became (became stepped present) own with ⟨before, had, same⟩ | ⟨-, move, drawn⟩
    · exact Int.le_trans (held.bounded had same) (Correlator.lastId_le_moved _ _)
    · rw [move, drawn]
      exact Int.le_refl _
  distinct {m n c d id} presentC presentD ownC ownD := by
    rcases id?_became (became stepped presentC) ownC with ⟨a, hadA, sameA⟩ | ⟨rfl, -, drawnA⟩ <;>
      rcases id?_became (became stepped presentD) ownD with ⟨b, hadB, sameB⟩ | ⟨goes, -, drawnB⟩
    · exact held.distinct hadA hadB sameA sameB
    · have bound := held.bounded hadA sameA
      omega
    · have bound := held.bounded hadB sameB
      omega
    · cases goes
      rfl
  entered {n call id} present own entered := by
    -- Somebody else's waking takes the entry of another id away.
    have keeps {d : Demand} {stage : Stage} (before : w.calls[n]? = some ⟨d, stage⟩)
        (had : stage.id? = some id) (was : stage.isEntered)
        (asleep : e.caller? = some n → stage ≠ .asleep id) :
        (y.transport.requests.slot? id).isSome := by
      rw [requests_step stepped]
      refine Correlator.isSome_slot?_moved (held.entered before had was) fun wakes => ?_
      obtain ⟨m, d', rfl, sleeper⟩ := move?_eq_wake wakes
      obtain rfl : m = n := held.distinct sleeper before rfl had
      rw [before] at sleeper
      cases sleeper
      exact asleep rfl rfl
    cases became stepped present with
    | same other before => exact keeps before own entered fun goes => absurd goes other
    | asked d => cases own
    | @advanced d stage next before follows =>
      rcases isEntered_next before stepped follows own entered with was | got
      · rcases id?_next follows own with ⟨had, awake⟩ | ⟨rfl, -⟩
        · exact keeps before had was fun _ => awake id
        · cases was
      · exact got
    | @sent d stage next failure before follows =>
      obtain ⟨had, was⟩ := id?_sent follows own
      refine keeps before had was fun _ asleep => ?_
      rw [asleep] at follows
      cases follows

theorem opening_held (outOpen errOpen : Bool) : (opening outOpen errOpen).Held where
  bounded present := by cases present
  distinct present := by cases present
  entered present := by cases present

end Wire

end ProviderHost
