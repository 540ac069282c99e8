import ProviderHost.Text

/-!
# Reading a stream

The host reads a stream without waiting, piece after piece, until there is nothing more for now.
A stream that fails counts as one that has ended. `contents_drain` says that no byte is lost
between two readings.
-/

namespace ProviderHost

inductive ReadAnswer where
  | bytes (piece : Text)
  | interrupted
  | nothingYet
  | ended
  | failed
  deriving DecidableEq, Repr

/-- What can be read from a stream without waiting. -/
structure Chunk where
  bytes : Text := []
  ended : Bool := false
  deriving DecidableEq, Repr

/-- What a stream that has given a chunk still holds, if `later` is what comes after it. -/
def Chunk.rest (later : Text) (c : Chunk) : Text := if c.ended then [] else later

namespace ReadAnswer

/-- Reads until there is nothing more for now. The answers of later reads are left. -/
def drain : List ReadAnswer → Chunk × List ReadAnswer
  | [] => ({}, [])
  | .bytes piece :: rest =>
    match drain rest with
    | (chunk, later) => ({ chunk with bytes := piece ++ chunk.bytes }, later)
  | .interrupted :: rest => drain rest
  | .nothingYet :: rest => ({}, rest)
  | .ended :: rest => ({ ended := true }, rest)
  | .failed :: rest => ({ ended := true }, rest)

def contents : List ReadAnswer → Text
  | [] => []
  | .bytes piece :: rest => piece ++ contents rest
  | .interrupted :: rest => contents rest
  | .nothingYet :: rest => contents rest
  | .ended :: _ => []
  | .failed :: _ => []

def ends (answers : List ReadAnswer) : Bool := answers.any fun a => a = .ended ∨ a = .failed

theorem contents_drain (answers : List ReadAnswer) :
    contents answers =
      (drain answers).1.bytes ++ (drain answers).1.rest (contents (drain answers).2) := by
  induction answers with
  | nil => rfl
  | cons a rest ih =>
    cases a with
    | bytes piece =>
      rw [contents, ih, ← List.append_assoc]
      rfl
    | interrupted => exact ih
    | nothingYet | ended | failed => rfl

theorem ends_drain {answers : List ReadAnswer} (goesOn : (drain answers).1.ended = false)
    (last : ends answers) : ends (drain answers).2 := by
  induction answers with
  | nil => exact last
  | cons a rest ih =>
    cases a with
    | bytes piece | interrupted => exact ih goesOn (by simpa [ends] using last)
    | nothingYet => simpa [ends, drain] using last
    | ended | failed => cases goesOn

theorem length_drain_lt {answers : List ReadAnswer} (last : ends answers) :
    (drain answers).2.length < answers.length := by
  induction answers with
  | nil => cases last
  | cons a rest ih =>
    cases a with
    | bytes piece | interrupted => exact Nat.lt_succ_of_lt (ih (by simpa [ends] using last))
    | nothingYet | ended | failed => exact Nat.lt_succ_self _

/-- A stream that is closed, or ends within some answers, is closed after a reading or ends
within fewer. -/
theorem closes_drain {answers : List ReadAnswer} {isOpen : Bool} {n : Nat}
    (closing : isOpen = false ∨ ends answers ∧ answers.length ≤ n + 1) :
    (isOpen && !(drain answers).1.ended) = false ∨
      ends (drain answers).2 ∧ (drain answers).2.length ≤ n := by
  rcases closing with isClosed | ⟨last, short⟩
  · exact .inl (by rw [isClosed, Bool.false_and])
  · cases goesOn : (drain answers).1.ended with
    | true => exact .inl (Bool.and_false _)
    | false =>
      have shorter := length_drain_lt last
      exact .inr ⟨ends_drain goesOn last, by omega⟩

end ReadAnswer

end ProviderHost
