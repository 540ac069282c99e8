import ProviderHost.ObjectSpan

/-!
# Tool calls in the text of a model

A call is looked for first in the code blocks that are marked as JSON and then in the objects
anywhere in the text. How the bytes of a candidate are read as a call is up to the caller.
-/

namespace ProviderHost

inductive Candidate (γ : Type) where
  | unreadable
  | other
  | call (c : γ)

namespace ToolCall

def openingFence : Text := "```json"

def closingFence : Text := "```"

def firstBlock? (t : Text) : Option (Text × Text) :=
  (Text.cutAt? openingFence t).bind fun (_, rest) => Text.cutAt? closingFence rest

theorem length_cutAt? {mark t front rest : Text} (h : Text.cutAt? mark t = some (front, rest)) :
    front.length + mark.length + rest.length = t.length := by
  induction t generalizing front with
  | nil =>
    simp only [Text.cutAt?, Option.map_eq_some_iff, Prod.mk.injEq] at h
    obtain ⟨_, ha, rfl, rfl⟩ := h
    have := congrArg List.length (Text.after?_eq_some_iff.1 ha)
    simp only [List.length_nil, List.length_append] at this ⊢
    omega
  | cons c t ih =>
    simp only [Text.cutAt?] at h
    split at h
    · rename_i r ha
      simp only [Option.some.injEq, Prod.mk.injEq] at h
      obtain ⟨rfl, rfl⟩ := h
      have := congrArg List.length (Text.after?_eq_some_iff.1 ha)
      simp only [List.length_append, List.length_nil] at this ⊢
      omega
    · simp only [Option.map_eq_some_iff, Prod.mk.injEq, Prod.exists] at h
      obtain ⟨a, b, hab, rfl, rfl⟩ := h
      have := ih hab
      simp only [List.length_cons] at this ⊢
      omega

theorem firstBlock?_length {t content rest : Text} (h : firstBlock? t = some (content, rest)) :
    rest.length < t.length := by
  unfold firstBlock? at h
  obtain ⟨⟨front, after⟩, h₁, h₂⟩ := Option.bind_eq_some_iff.1 h
  have l₁ := length_cutAt? h₁
  have l₂ := length_cutAt? h₂
  have : openingFence.length = 7 := by decide
  omega

/-- The contents of the marked blocks, without blanks at their ends. -/
def blocks (t : Text) : List Text :=
  match _h : firstBlock? t with
  | none => []
  | some (content, rest) => content.trim :: blocks rest
termination_by t.length
decreasing_by exact firstBlock?_length ‹_›

variable {γ : Type}

/-- The first call among the objects at `spans`. Objects inside one that was read as JSON are
not looked at again. -/
def firstInObjects (read : Text → Candidate γ) (t : Text) :
    Option Nat → List ObjectSpan → Option γ
  | _, [] => none
  | covered, span :: spans =>
    if covered.any (span.1 ≤ ·) then firstInObjects read t covered spans
    else
      match read (span.slice t) with
      | .unreadable => firstInObjects read t covered spans
      | .other => firstInObjects read t (some span.2) spans
      | .call c => some c

/-- The call that a text makes: that of its first marked block that is one, or else of the
first object that is or holds one. -/
def extract (readBlock : Text → Option γ) (readObject : Text → Candidate γ) (t : Text) :
    Option γ :=
  (blocks t).findSome? readBlock <|> firstInObjects readObject t none (objectSpans t)

end ToolCall

end ProviderHost
