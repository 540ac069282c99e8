import ProviderHost.Proofs.Child.Embedding

/-!
# Systems in parts

`Partitioned` says what is relied on of a system that keeps providers apart: the calls that are
made for a provider meet its own part of the system. `Systems` gives each provider a system of its
own.
-/

namespace ProviderHost

/-- A system that has a part for each provider. Calls are made for the provider whose turn it is:
its part answers them, and the other parts stay as they are. -/
class Partitioned (κ : Type) (μ : outParam Type) [Kernel κ] [Kernel μ] where
  turn : κ → Text
  part : Text → κ → μ
  give : Text → κ → κ
  amend : Text → (μ → μ) → κ → κ
  turn_give : ∀ id k, turn (give id k) = id
  part_give : ∀ id other k, part other (give id k) = part other k
  part_amend : ∀ id change other k,
    part other (amend id change k) = if other = id then change (part other k) else part other k
  own : Embedding κ μ
  kernel_own : ∀ k, own.kernel k = part (turn k) k
  kept : Kernel.Kept fun k k' : κ =>
    turn k' = turn k ∧ ∀ other, other ≠ turn k → part other k' = part other k

/-- Each provider in a system of its own. -/
structure Systems (μ : Type) where
  turn : Text := []
  part : Text → μ

namespace Systems

variable {μ : Type}

/-- Replaces the part whose turn it is. -/
def set (s : Systems μ) (k : μ) : Systems μ :=
  { s with part := fun id => if id = s.turn then k else s.part id }

/-- Lets the part answer whose turn it is. -/
def ask {α : Type} (s : Systems μ) (call : μ → α × μ) : α × Systems μ :=
  onState s.set (call (s.part s.turn))

theorem part_set (s : Systems μ) (k : μ) : (s.set k).part (s.set k).turn = k := if_pos rfl

theorem part_set_of_ne (s : Systems μ) (k : μ) {id : Text} (other : id ≠ s.turn) :
    (s.set k).part id = s.part id := if_neg other

variable [Kernel μ]

instance : Kernel (Systems μ) where
  now s := Kernel.now (s.part s.turn)
  sleep d s := s.set (Kernel.sleep d (s.part s.turn))
  start files launch env s := s.ask (Kernel.start files launch env)
  poll pid s := s.ask (Kernel.poll pid)
  ends wait s := Kernel.ends wait (s.part s.turn)
  reap pid s := s.set (Kernel.reap pid (s.part s.turn))
  signalGroup pid signal s := s.ask (Kernel.signalGroup pid signal)
  signalProcess pid signal s := s.ask (Kernel.signalProcess pid signal)
  read pid stream s := s.ask (Kernel.read pid stream)
  closeInput pid s := s.set (Kernel.closeInput pid (s.part s.turn))
  closeOutputs pid s := s.set (Kernel.closeOutputs pid (s.part s.turn))
  healthStatus u path t s := s.ask (Kernel.healthStatus u path t)
  greet peer t s := s.ask (Kernel.greet peer t)
  listTools peer t s := s.ask (Kernel.listTools peer t)
  callTool peer tool arguments t s := s.ask (Kernel.callTool peer tool arguments t)
  dismiss peer t s := s.ask (Kernel.dismiss peer t)
  now_le_poll pid s := Nat.le_trans (Kernel.now_le_poll pid (s.part s.turn))
    (Nat.le_of_eq (congrArg Kernel.now (s.part_set _).symm))
  now_lt_sleep d s := Nat.lt_of_lt_of_eq (Kernel.now_lt_sleep d (s.part s.turn))
    (congrArg Kernel.now (s.part_set _).symm)
  now_le_healthStatus u path t s :=
    Nat.le_trans (Kernel.now_le_healthStatus u path t (s.part s.turn))
      (Nat.le_of_eq (congrArg Kernel.now (s.part_set _).symm))

def current (s : Systems μ) : μ := s.part s.turn

omit [Kernel μ] in
theorem current_ask {α : Type} (s : Systems μ) (call : μ → α × μ) :
    call s.current = onState current (s.ask call) :=
  Prod.ext rfl (s.part_set _).symm

def embedding : Embedding (Systems μ) μ where
  kernel := current
  report := Journal.report_id
  now _ := rfl
  sleep _ s := (s.part_set _).symm
  start files launch env s := s.current_ask (Kernel.start files launch env)
  poll pid s := s.current_ask (Kernel.poll pid)
  reap _ s := (s.part_set _).symm
  signalGroup pid signal s := s.current_ask (Kernel.signalGroup pid signal)
  signalProcess pid signal s := s.current_ask (Kernel.signalProcess pid signal)
  read pid stream s := s.current_ask (Kernel.read pid stream)
  closeInput _ s := (s.part_set _).symm
  closeOutputs _ s := (s.part_set _).symm
  healthStatus u path t s := s.current_ask (Kernel.healthStatus u path t)
  greet peer t s := s.current_ask (Kernel.greet peer t)
  listTools peer t s := s.current_ask (Kernel.listTools peer t)
  callTool peer tool arguments t s := s.current_ask (Kernel.callTool peer tool arguments t)
  dismiss peer t s := s.current_ask (Kernel.dismiss peer t)

theorem others_kept : Kernel.Kept fun s s' : Systems μ =>
    s'.turn = s.turn ∧ ∀ other, other ≠ s.turn → s'.part other = s.part other where
  refl _ := ⟨rfl, fun _ _ => rfl⟩
  trans := by
    intro s s' s'' first second
    refine ⟨second.1.trans first.1, fun other different => ?_⟩
    have later : other ≠ s'.turn := fun same => different (same.trans first.1)
    exact (second.2 other later).trans (first.2 other different)
  step := by
    intro s s' step
    cases step <;> exact ⟨rfl, fun other different => part_set_of_ne _ _ different⟩
  start _ _ _ _ := ⟨rfl, fun _ different => part_set_of_ne _ _ different⟩

instance : Partitioned (Systems μ) μ where
  turn := turn
  part id s := s.part id
  give id s := { s with turn := id }
  amend id change s :=
    { s with part := fun other => if other = id then change (s.part other) else s.part other }
  turn_give _ _ := rfl
  part_give _ _ _ := rfl
  part_amend _ _ _ _ := rfl
  own := embedding
  kernel_own _ := rfl
  kept := others_kept

end Systems

end ProviderHost
