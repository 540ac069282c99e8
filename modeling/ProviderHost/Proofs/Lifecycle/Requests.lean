import ProviderHost.Lifecycle.Status
import ProviderHost.ToolAccess

/-!
# Requests

Everything that is done with a controller for one provider, what its monitor does included, as
data. A run takes one step after the other and keeps what was answered.
-/

namespace ProviderHost

/-- Takes one step for each input. What is answered is kept together with its input. -/
def takeSteps {σ ρ α : Type} (step : σ → ρ → α × σ) : σ → List ρ → List (ρ × α) × σ
  | s, [] => ([], s)
  | s, input :: inputs =>
    match step s input with
    | (answer, s) =>
      match takeSteps step s inputs with
      | (history, s) => ((input, answer) :: history, s)

theorem takeSteps_cons {σ ρ α : Type} (step : σ → ρ → α × σ) (s : σ) (input : ρ)
    (inputs : List ρ) : takeSteps step s (input :: inputs) =
      ((input, (step s input).1) :: (takeSteps step (step s input).2 inputs).1,
        (takeSteps step (step s input).2 inputs).2) := rfl

namespace Controller

/-- What is done for a provider. -/
inductive Request where
  | adopt (i : Instance)
  | launch (d : Definition)
  | start (id : Text)
  | stop (id : Text)
  | status (id : Text)
  | update (id : Text) (p : Patch)
  | uninstall (id : Text)
  | borrow (id : Text)
  /-- A tool is called on the instance that is lent out. -/
  | execute (id tool arguments : Text)
  | tick (id : Text)
  /-- The output is read, and the monitor does a round if its timer has fired. -/
  | attend (id : Text)

/-- The provider that a request is about. -/
def Request.owner : Request → Text
  | .adopt i => i.id
  | .launch d => d.id
  | .start id | .stop id | .status id | .update id _ | .uninstall id | .borrow id
  | .execute id _ _ | .tick id | .attend id => id

inductive Answer where
  | nothing
  | start (r : Except Fault StartReport)
  | stop (r : Except Fault Unit)
  | status (r : Except Fault StatusReport)
  | definition (r : Except Fault Definition)
  | lent (r : Except Fault Instance)
  | tool (r : ToolAnswer)

variable {δ κ : Type}

/-- The system changes by itself: time passes, processes make progress and end. -/
def disturb (change : κ → κ) (c : Controller δ κ) : Controller δ κ :=
  { c with world := { c.world with kernel := change c.world.kernel } }

variable [Document δ] [Kernel κ]

def serve (c : Controller δ κ) : Request → Answer × Controller δ κ
  | .adopt i => (.nothing, c.adopt i)
  | .launch d => (c.launch d).map .start id
  | .start id' => (c.start id').map .start id
  | .stop id' => (c.halt id').map .stop id
  | .status id' => (c.status id').map .status id
  | .update id' p => (c.update id' p).map .definition id
  | .uninstall id' => (c.uninstall id').map .stop id
  | .borrow id' => (.lent (c.borrow id'), c)
  | .execute id' tool arguments => (c.execute id' tool arguments).map .tool id
  | .tick id' => (.nothing, c.onInstance id' fun i w => i.monitorStep c.site w)
  | .attend id' => (.nothing, c.attend id')

end Controller

end ProviderHost
