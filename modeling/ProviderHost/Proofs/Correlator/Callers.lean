import ProviderHost.Proofs.Correlator.Delivery
import Mathlib.Algebra.Group.Nat.Defs
import Mathlib.Logic.Function.Basic

/-!
# Callers and their ids

Any number of callers draw an id each, register it and wait for it, one step at a time, and others
complete requests and close the correlator in between. Drawing an id and registering it are two
steps, so what keeps ids apart is not in the table alone: the ids that callers hold are distinct and
not beyond the counter, and the table has those of the requests that are to be waited for (`Sound`).
-/

namespace ProviderHost.Correlator

variable {κ π : Type}

/-- Where a caller stands with its request. -/
inductive Standing where
  | idle
  | drawn (id : Int)
  | registered (id : Int)
  /-- The registration was refused. Who waits all the same is told that there is no request. -/
  | refused (id : Int)
  | waiting (id : Int)
  deriving DecidableEq, Repr

namespace Standing

@[simp] def id? : Standing → Option Int
  | idle => none
  | drawn id | registered id | refused id | waiting id => some id

/-- Whether a caller has a request that it has not stopped waiting for. -/
@[simp] def isPending : Standing → Bool
  | registered _ | waiting _ => true
  | idle | drawn _ | refused _ => false

/-- What a caller does next. After a wait it may begin anew. -/
@[simp] def move : Standing → Move π
  | idle => .nextId
  | drawn id => .register id
  | registered id | refused id => .enter id
  | waiting id => .wake id

@[simp] def answered : Standing → Answer π → Standing
  | idle, .drawn id => drawn id
  | drawn id, .registered (.ok ()) => registered id
  | drawn id, .registered (.error _) => refused id
  | registered id, .admitted | refused id, .admitted => waiting id
  | _, _ => idle

end Standing

/-- A desk with those who make requests there. -/
structure Crowd (κ π : Type) where
  desk : Desk π := {}
  standing : κ → Standing := fun _ => .idle

/-- Whose turn it is: that of a caller, which takes its next step, or of somebody else. -/
inductive Turn (κ π : Type) where
  | caller (k : κ)
  | complete (id : Int) (outcome : Outcome π)
  | close (reason : Fault)

def Turn.move (c : Crowd κ π) : Turn κ π → Move π
  | .caller k => (c.standing k).move
  | .complete id outcome => .completing id outcome
  | .close reason => .close reason

/-- The ids that were handed out, in the order in which they were drawn. -/
def drawnIds (record : List (Move π × Answer π)) : List Int :=
  record.filterMap fun (_, answer) =>
    match answer with
    | .drawn id => some id
    | _ => none

namespace Crowd

variable [DecidableEq κ]

def step (c : Crowd κ π) (t : Turn κ π) : Crowd κ π where
  desk := (c.desk.play (t.move c)).2
  standing :=
    match t with
    | .caller k =>
      Function.update c.standing k ((c.standing k).answered (c.desk.play (t.move c)).1)
    | .complete _ _ | .close _ => c.standing

def run (c : Crowd κ π) (turns : List (Turn κ π)) : Crowd κ π := turns.foldl step c

/-- The moves that some turns make on the desk. -/
def moves (c : Crowd κ π) : List (Turn κ π) → List (Move π)
  | [] => []
  | t :: turns => t.move c :: (c.step t).moves turns

theorem run_concat (c : Crowd κ π) (turns : List (Turn κ π)) (t : Turn κ π) :
    c.run (turns ++ [t]) = (c.run turns).step t := by
  rw [run, List.foldl_append]
  rfl

theorem moves_concat (c : Crowd κ π) (turns : List (Turn κ π)) (t : Turn κ π) :
    c.moves (turns ++ [t]) = c.moves turns ++ [t.move (c.run turns)] := by
  induction turns generalizing c with
  | nil => rfl
  | cons first turns ih => exact congrArg (first.move c :: ·) (ih (c.step first))

theorem desk_run (c : Crowd κ π) (turns : List (Turn κ π)) :
    (c.run turns).desk = c.desk.run (c.moves turns) := by
  induction turns generalizing c with
  | nil => rfl
  | cons t turns ih => exact ih (c.step t)

end Crowd

theorem admits_of_mem {c : Correlator π} {e : Int × Option (Outcome π)} (member : e ∈ c.pending) :
    c.admits e.1 := by
  simp only [admits, slot?, Option.isSome_map, List.find?_isSome]
  exact ⟨e, member, by simp⟩

/-! ### The ids that are handed out -/

theorem drawnIds_transcript_cons (d : Desk π) (m : Move π) (moves : List (Move π)) :
    drawnIds (d.transcript (m :: moves)) =
      match m with
      | .nextId => (d.correlator.lastId + 1) :: drawnIds ((d.play m).2.transcript moves)
      | _ => drawnIds ((d.play m).2.transcript moves) := by
  cases m with
  | enter id =>
    rw [Desk.transcript, play_enter]
    split <;> rfl
  | _ => rfl

/-- Whoever draws an id, it is beyond those drawn before, and the counter counts them. -/
theorem drawnIds_increase (d : Desk π) (moves : List (Move π)) :
    let ids := drawnIds (d.transcript moves)
    let last := (d.run moves).correlator.lastId
    ids.Pairwise (· < ·) ∧ (∀ id ∈ ids, d.correlator.lastId < id ∧ id ≤ last) ∧
      last = d.correlator.lastId + ids.length := by
  induction moves generalizing d with
  | nil => exact ⟨.nil, nofun, (Int.add_zero _).symm⟩
  | cons m moves ih =>
    obtain ⟨increasing, bounds, count⟩ := ih (d.play m).2
    rw [lastId_play] at bounds count
    rw [drawnIds_transcript_cons, Desk.run_cons]
    cases m with
    | nextId =>
      dsimp only at increasing bounds count ⊢
      refine ⟨List.pairwise_cons.mpr ⟨fun id later => (bounds id later).1, increasing⟩, ?_, ?_⟩
      · intro id member
        rcases List.mem_cons.mp member with rfl | later
        · omega
        · have := bounds id later
          omega
      · rw [count, List.length_cons]
        omega
    | _ => exact ⟨increasing, bounds, count⟩

/-! ### The ids that are held -/

/-- Ids are not shared, and the table has an entry for each request that is to be waited for. -/
structure Sound (c : Crowd κ π) : Prop where
  bounded {k : κ} {id : Int} : (c.standing k).id? = some id → id ≤ c.desk.correlator.lastId
  distinct {j k : κ} {id : Int} :
    (c.standing j).id? = some id → (c.standing k).id? = some id → j = k
  entered {id : Int} : c.desk.correlator.admits id ↔
    ∃ k, (c.standing k).id? = some id ∧ (c.standing k).isPending
  waits {id : Int} : id ∈ c.desk.waiting ↔ ∃ k, c.standing k = .waiting id
  once : c.desk.waiting.Nodup

/-- What a caller's step may do: of the ids that are held it touches the caller's own alone. -/
structure Stepped (c : Crowd κ π) (k : κ) (d : Desk π) (s : Standing) : Prop where
  counter : c.desk.correlator.lastId ≤ d.correlator.lastId
  own {id : Int} : s.id? = some id →
    (c.standing k).id? = some id ∨ c.desk.correlator.lastId < id ∧ id ≤ d.correlator.lastId
  entries {id : Int} : d.correlator.admits id ↔
    s.id? = some id ∧ s.isPending ∨
      c.desk.correlator.admits id ∧ (c.standing k).id? ≠ some id
  waits {id : Int} : id ∈ d.waiting ↔
    s = .waiting id ∨ id ∈ c.desk.waiting ∧ c.standing k ≠ .waiting id
  once : d.waiting.Nodup

theorem sound_start : Sound ({} : Crowd κ π) where
  bounded own := by cases own
  distinct own := by cases own
  entered := ⟨nofun, fun ⟨_, own, _⟩ => nomatch own⟩
  waits := ⟨nofun, fun ⟨_, same⟩ => nomatch same⟩
  once := .nil

variable {c : Crowd κ π} {k : κ} {id : Int}

theorem Sound.admits_iff (sound : Sound c) (own : (c.standing k).id? = some id) :
    c.desk.correlator.admits id ↔ (c.standing k).isPending := by
  refine sound.entered.trans ⟨?_, fun pending => ⟨k, own, pending⟩⟩
  rintro ⟨j, same, pending⟩
  exact sound.distinct same own ▸ pending

theorem Sound.mem_waiting_iff (sound : Sound c) (own : (c.standing k).id? = some id) :
    id ∈ c.desk.waiting ↔ c.standing k = .waiting id := by
  refine sound.waits.trans ⟨?_, fun waiting => ⟨k, waiting⟩⟩
  rintro ⟨j, waiting⟩
  have same : j = k := sound.distinct (by rw [waiting]; rfl) own
  exact same ▸ waiting

theorem Sound.not_admits (sound : Sound c) (drawn : c.standing k = .drawn id) :
    ¬ c.desk.correlator.admits id := by
  have own : (c.standing k).id? = some id := by rw [drawn]; rfl
  rw [sound.admits_iff own, drawn]
  exact Bool.false_ne_true

theorem Sound.play_register (sound : Sound c) (drawn : c.standing k = .drawn id) :
    (c.desk.play (.register id)).1 =
      .registered (match c.desk.correlator.closed with
        | some reason => .error (.given reason)
        | none => .ok ()) := by
  have slot : c.desk.correlator.slot? id = none := by simpa [admits] using sound.not_admits drawn
  simp only [Desk.play, register, slot]
  cases c.desk.correlator.closed <;> rfl

theorem Sound.stepped_idle (sound : Sound c) (idle : c.standing k = .idle) :
    Stepped c k (c.desk.play .nextId).2 (.drawn c.desk.correlator.nextId.1) where
  counter := Int.le_add_one (Int.le_refl _)
  own := by
    rintro id ⟨⟩
    exact .inr ⟨Int.lt_succ _, Int.le_refl _⟩
  entries := by simp [admits_play, idle]
  waits := by simp [Desk.play, idle]
  once := sound.once

theorem Sound.stepped_drawn (sound : Sound c) {i : Int} (drawn : c.standing k = .drawn i) :
    Stepped c k (c.desk.play (.register i)).2
      (if c.desk.correlator.closed = none then .registered i else .refused i) where
  counter := Int.le_of_eq (lastId_play c.desk (.register i)).symm
  own own := by
    rw [drawn]
    split at own <;> exact .inl own
  entries {id} := by
    have free := sound.not_admits drawn
    simp only [admits_play, drawn]
    by_cases same : i = id
    · subst same
      by_cases opened : c.desk.correlator.closed = none <;> simp [opened, free]
    · by_cases opened : c.desk.correlator.closed = none <;> simp [opened, same]
  waits := by
    rw [drawn]
    split <;> simp [Desk.play]
  once := sound.once

/-- A wait goes on after its beginning if and only if the request was accepted. -/
theorem Sound.stepped_enter (sound : Sound c) {i : Int} (own : (c.standing k).id? = some i)
    (awake : ∀ j, c.standing k ≠ .waiting j) :
    Stepped c k (c.desk.play (.enter i)).2
      (if c.desk.correlator.admits i then .waiting i else .idle) where
  counter := Int.le_of_eq (lastId_play c.desk (.enter i)).symm
  own same := by
    split at same <;> cases same
    exact .inl own
  entries {id} := by
    simp only [admits_play, own]
    by_cases same : i = id
    · subst same
      by_cases admitted : c.desk.correlator.admits i <;> simp [admitted]
    · by_cases admitted : c.desk.correlator.admits i <;> simp [admitted, same]
  waits := by
    by_cases admitted : c.desk.correlator.admits i <;> simp [Desk.play, admitted, awake, eq_comm]
  once := by
    have fresh : i ∉ c.desk.waiting := by
      rw [sound.mem_waiting_iff own]
      exact awake i
    rw [Desk.play]
    split
    · exact List.nodup_cons.mpr ⟨fresh, sound.once⟩
    · exact sound.once

theorem Sound.stepped_waiting (sound : Sound c) {i : Int} (waiting : c.standing k = .waiting i) :
    Stepped c k (c.desk.play (.wake i)).2 .idle where
  counter := Int.le_refl _
  own := nofun
  entries := by simp [admits_play, waiting, and_comm]
  waits {id} := by
    change id ∈ c.desk.waiting.erase i ↔ _
    rw [sound.once.mem_erase_iff, waiting]
    simp [and_comm, eq_comm]
  once := sound.once.erase i

theorem Sound.stepped (sound : Sound c) (k : κ) :
    Stepped c k (c.desk.play (c.standing k).move).2
      ((c.standing k).answered (c.desk.play (c.standing k).move).1) := by
  cases standing : c.standing k with
  | idle => exact sound.stepped_idle standing
  | drawn i =>
    have next : (Standing.drawn i).answered (c.desk.play (.register i)).1 =
        if c.desk.correlator.closed = none then .registered i else .refused i := by
      rw [sound.play_register standing]
      cases c.desk.correlator.closed <;> simp
    rw [Standing.move, next]
    exact sound.stepped_drawn standing
  | registered i | refused i =>
    have next : ∀ s ∈ [Standing.registered i, .refused i],
        s.answered (c.desk.play (.enter i)).1 =
          if c.desk.correlator.admits i then .waiting i else .idle := by
      by_cases admitted : c.desk.correlator.admits i <;> simp [Desk.play, admitted]
    rw [Standing.move, next _ (by simp)]
    exact sound.stepped_enter (by rw [standing]; rfl) (by simp [standing])
  | waiting i => exact sound.stepped_waiting standing

theorem Sound.of_desk (sound : Sound c) {d : Desk π}
    (counter : d.correlator.lastId = c.desk.correlator.lastId)
    (entries : ∀ id, d.correlator.admits id ↔ c.desk.correlator.admits id)
    (waiting : d.waiting = c.desk.waiting) : Sound { c with desk := d } where
  bounded own := counter ▸ sound.bounded own
  distinct := sound.distinct
  entered := (entries _).trans sound.entered
  waits := by
    rw [waiting]
    exact sound.waits
  once := waiting ▸ sound.once

theorem Sound.le_lastId (sound : Sound c) {e : Int × Option (Outcome π)}
    (member : e ∈ c.desk.correlator.pending) : e.1 ≤ c.desk.correlator.lastId := by
  obtain ⟨k, own, -⟩ := sound.entered.mp (admits_of_mem member)
  exact sound.bounded own

theorem Sound.pending_eq_nil (sound : Sound c) (finished : ∀ k, (c.standing k).isPending = false) :
    c.desk.correlator.pending = [] := by
  refine List.eq_nil_iff_forall_not_mem.mpr fun e member => ?_
  obtain ⟨k, -, pending⟩ := sound.entered.mp (admits_of_mem member)
  exact Bool.false_ne_true ((finished k).symm.trans pending)

theorem Sound.allows (sound : Sound c) (t : Turn κ π) : c.desk.Allows (t.move c) := by
  cases t with
  | caller k =>
    cases standing : c.standing k with
    | idle | drawn i => simp [Turn.move, standing, Desk.Allows]
    | registered i | refused i | waiting i =>
      have own : (c.standing k).id? = some i := by rw [standing]; rfl
      simp [Turn.move, standing, Desk.Allows, sound.mem_waiting_iff own]
  | complete id outcome => cases outcome <;> exact trivial
  | close reason => exact trivial

theorem exists_drawn_of_move {t : Turn κ π} (move : t.move c = .register id) :
    ∃ k, c.standing k = .drawn id := by
  cases t with
  | caller k =>
    refine ⟨k, ?_⟩
    cases standing : c.standing k <;> simp_all [Turn.move]
  | complete i outcome => cases outcome <;> cases move
  | close reason => cases move

/-! ### Turns -/

variable [DecidableEq κ]

/-- An id that a caller has after a step of another or its own it had before, or it has drawn it. -/
theorem Stepped.had_or_drawn {d : Desk π} {s : Standing} (stepped : Stepped c k d s) {j : κ}
    (own : (Function.update c.standing k s j).id? = some id) :
    (c.standing j).id? = some id ∨
      j = k ∧ c.desk.correlator.lastId < id ∧ id ≤ d.correlator.lastId := by
  by_cases self : j = k
  · subst self
    rw [Function.update_self] at own
    exact (stepped.own own).imp_right fun drawn => ⟨rfl, drawn⟩
  · rw [Function.update_of_ne self] at own
    exact .inl own

theorem Stepped.sound {d : Desk π} {s : Standing} (stepped : Stepped c k d s) (sound : Sound c) :
    Sound { desk := d, standing := Function.update c.standing k s } where
  bounded own := by
    rcases stepped.had_or_drawn own with had | ⟨-, -, bound⟩
    · exact Int.le_trans (sound.bounded had) stepped.counter
    · exact bound
  distinct ownJ ownL := by
    -- What a caller has just drawn is beyond all that the others hold.
    rcases stepped.had_or_drawn ownJ with hadJ | ⟨rfl, beyondJ, -⟩ <;>
      rcases stepped.had_or_drawn ownL with hadL | ⟨rfl, beyondL, -⟩
    · exact sound.distinct hadJ hadL
    · have bound := sound.bounded hadJ
      omega
    · have bound := sound.bounded hadL
      omega
    · rfl
  entered {id} := by
    refine stepped.entries.trans (Iff.trans (or_congr_right ⟨?_, ?_⟩)
      (Function.exists_update_iff c.standing
        (p := fun _ s => s.id? = some id ∧ s.isPending)).symm)
    · rintro ⟨admitted, other⟩
      obtain ⟨j, own, pending⟩ := sound.entered.mp admitted
      exact ⟨j, fun same => other (same ▸ own), own, pending⟩
    · rintro ⟨j, apart, own, pending⟩
      exact ⟨sound.entered.mpr ⟨j, own, pending⟩, fun same => apart (sound.distinct own same)⟩
  waits {id} := by
    refine stepped.waits.trans (Iff.trans (or_congr_right ⟨?_, ?_⟩)
      (Function.exists_update_iff c.standing (p := fun _ s => s = .waiting id)).symm)
    · rintro ⟨member, other⟩
      obtain ⟨j, waiting⟩ := sound.waits.mp member
      exact ⟨j, fun same => other (same ▸ waiting), waiting⟩
    · rintro ⟨j, apart, waiting⟩
      refine ⟨sound.waits.mpr ⟨j, waiting⟩, fun same => apart ?_⟩
      exact sound.distinct (by rw [waiting]; rfl) (by rw [same]; rfl)
  once := stepped.once

theorem Sound.step (sound : Sound c) (t : Turn κ π) : Sound (c.step t) := by
  cases t with
  | caller k => exact (sound.stepped k).sound sound
  | complete id outcome =>
    cases outcome <;>
      exact sound.of_desk (lastId_play _ _) (fun id => admits_play _ _ id) rfl
  | close reason => exact sound.of_desk (lastId_play _ _) (fun id => admits_play _ _ id) rfl

theorem sound_run (turns : List (Turn κ π)) : Sound (({} : Crowd κ π).run turns) := by
  induction turns using List.reverseRecOn with
  | nil => exact sound_start
  | append_singleton turns t ih =>
    rw [Crowd.run_concat]
    exact ih.step t

theorem orderly_moves (turns : List (Turn κ π)) : Orderly (({} : Crowd κ π).moves turns) := by
  induction turns using List.reverseRecOn with
  | nil => exact .nil
  | append_singleton turns t ih =>
    rw [Crowd.moves_concat]
    refine ih.concat ?_
    have allowed := (sound_run turns).allows t
    rwa [Crowd.desk_run] at allowed

theorem closed_step {t : Turn κ π} {reason : Fault}
    (closed : (c.step t).desk.correlator.closed = some reason) :
    c.desk.correlator.closed = some reason ∨ t.move c = .close reason := by
  have played := closed_play c.desk (t.move c)
  rw [show (c.desk.play (t.move c)).2.correlator.closed = some reason from closed] at played
  split at played
  · rename_i r move
    cases before : c.desk.correlator.closed with
    | some first =>
      rw [before] at played
      exact .inl played.symm
    | none =>
      rw [before] at played
      cases played
      exact .inr move
  · exact .inl played.symm

/-- A registration succeeds, or is refused with the reason of a closing that came before it. -/
theorem Sound.registered_of_mem (sound : Sound c) {turns : List (Turn κ π)}
    {result : Except RequestFault Unit}
    (member : (.register id, .registered result) ∈ c.desk.transcript (c.moves turns)) :
    result = .ok () ∨ ∃ reason, result = .error (.given reason) ∧
      (c.desk.correlator.closed = some reason ∨ .close reason ∈ c.moves turns) := by
  induction turns generalizing c with
  | nil => cases member
  | cons t turns ih =>
    rw [Crowd.moves, Desk.transcript] at member
    rcases List.mem_cons.mp member with first | later
    · obtain ⟨move, answer⟩ := Prod.mk.inj first
      obtain ⟨k, drawn⟩ := exists_drawn_of_move move.symm
      rw [← move, sound.play_register drawn, Answer.registered.injEq] at answer
      cases closed : c.desk.correlator.closed with
      | none => exact .inl (by rw [answer, closed])
      | some reason => exact .inr ⟨reason, by rw [answer, closed], .inl rfl⟩
    · rcases ih (sound.step t) later with accepted | ⟨reason, refused, closed | closing⟩
      · exact .inl accepted
      · refine .inr ⟨reason, refused, (closed_step closed).imp_right fun move => ?_⟩
        exact List.mem_cons.mpr (.inl move.symm)
      · exact .inr ⟨reason, refused, .inr (List.mem_cons_of_mem _ closing)⟩

/-- Ids do not collide, whatever comes between the steps in which callers draw, register and await
theirs, and once nobody is left waiting no entry is left behind. -/
theorem ids_never_collide (turns : List (Turn κ π))
    (few : (drawnIds (({} : Desk π).transcript (({} : Crowd κ π).moves turns))).length < 2 ^ 63) :
    let crowd := ({} : Crowd κ π).run turns
    let moves := ({} : Crowd κ π).moves turns
    let record := ({} : Desk π).transcript moves
    let ids := drawnIds record
    crowd.desk = after moves ∧ Orderly moves ∧
    -- Ids grow in the order in which they are drawn, and a word of 64 bits holds each of them.
    ids.Pairwise (· < ·) ∧ ids.Nodup ∧ (∀ id ∈ ids, (Int64.ofInt id).toInt = id) ∧
    -- The counter is how many were drawn, and no entry is beyond it.
    crowd.desk.correlator.lastId = ids.length ∧
    (∀ e ∈ crowd.desk.correlator.pending, e.1 ≤ crowd.desk.correlator.lastId) ∧
    -- No registration finds its id taken. It succeeds unless the correlator was closed before.
    (∀ id result, (.register id, .registered result) ∈ record →
      (∀ i, result ≠ .error (.idTaken i)) ∧
      (result = .ok () ∨ ∃ reason, result = .error (.given reason) ∧ .close reason ∈ moves)) ∧
    ((∀ k, (crowd.standing k).isPending = false) → crowd.desk.correlator.pending = []) := by
  intro crowd moves record ids
  have sound : Sound crowd := sound_run turns
  have left : crowd.desk = after moves := Crowd.desk_run {} turns
  obtain ⟨increasing, bounds, count⟩ := drawnIds_increase ({} : Desk π) moves
  have counted : (after moves).correlator.lastId = ids.length := count.trans (Int.zero_add _)
  have counter : crowd.desk.correlator.lastId = ids.length := by rw [left, counted]
  refine ⟨left, orderly_moves turns, increasing, increasing.imp Int.ne_of_lt, ?_, counter,
    fun e => sound.le_lastId, ?_, sound.pending_eq_nil⟩
  · intro id member
    obtain ⟨low, high⟩ := bounds id member
    have positive : 0 < id := low
    have small : id ≤ ids.length := Int.le_trans high (Int.le_of_eq counted)
    have fits : ids.length < 2 ^ 63 := few
    exact Int64.toInt_ofInt_of_le (by omega) (by omega)
  · intro id result member
    rcases sound_start.registered_of_mem member with rfl | ⟨reason, rfl, closed | closing⟩
    · exact ⟨nofun, .inl rfl⟩
    · cases closed
    · exact ⟨nofun, .inr ⟨reason, rfl, closing⟩⟩

/-- Two callers that register in the other order than they drew, and a third request that comes
after the closing. -/
def crossingCallers : List (Turn Bool Nat) :=
  [.caller false, .caller true, .caller true, .complete 2 (.ok 20), .caller false, .caller true,
    .caller false, .complete 1 (.error unsent), .caller true, .caller true, .close ended,
    .caller false, .caller true]

theorem crossing_callers_leave_nothing :
    let ids := drawnIds (({} : Desk Nat).transcript (({} : Crowd Bool Nat).moves crossingCallers))
    ids.length < 2 ^ 63 ∧ ids = [1, 2, 3] ∧ ids.Nodup ∧
      (({} : Crowd Bool Nat).run crossingCallers).standing true = .refused 3 ∧
      (({} : Crowd Bool Nat).run crossingCallers).desk.correlator.pending = [] := by
  intro ids
  have few : ids.length < 2 ^ 63 := by decide
  have finished : ∀ k, ((({} : Crowd Bool Nat).run crossingCallers).standing k).isPending = false := by
    rintro (_ | _) <;> rfl
  obtain ⟨-, -, -, distinct, -, -, -, -, empty⟩ := ids_never_collide crossingCallers few
  exact ⟨few, rfl, distinct, rfl, empty finished⟩

end ProviderHost.Correlator
