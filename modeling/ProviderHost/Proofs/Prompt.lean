import ProviderHost.Prompt
import ProviderHost.Proofs.Text.Cutting
import ProviderHost.ToolCall

/-!
# The example in the prompt

The prompt shows a model how to call a tool, and it can be read for calls like any other text. What
is read first is the example, whatever the names and descriptions of the tools hold besides markers:
all that surrounds them is free of the bytes of the marker, so none arises at the seams, and a
closing fence among them counts for nothing before the marker.
-/

namespace ProviderHost

namespace ToolCall

variable {lead : Text} {c : UInt8}

theorem firstBlock?_append_of_absent (absent : ¬ openingFence <:+: lead) (stray : c ∉ openingFence)
    (t : Text) : firstBlock? (lead ++ c :: t) = firstBlock? (c :: t) := by
  rw [firstBlock?, Text.cutAt?_append_of_absent absent stray, Option.bind_map]
  rfl

theorem blocks_eq (t : Text) :
    blocks t = (firstBlock? t).elim [] fun (content, rest) => content.trim :: blocks rest := by
  rw [blocks]
  split <;> rename_i found <;> rw [found] <;> rfl

theorem blocks_append_of_absent (absent : ¬ openingFence <:+: lead) (stray : c ∉ openingFence)
    (t : Text) : blocks (lead ++ c :: t) = blocks (c :: t) := by
  rw [blocks_eq, firstBlock?_append_of_absent absent stray, ← blocks_eq]

theorem extract_of_first {γ : Type} {readBlock : Text → Option γ} {t first : Text}
    {more : List Text} {call : γ} (found : blocks t = first :: more)
    (read : readBlock first = some call) (readObject : Text → Candidate γ) :
    extract readBlock readObject t = some call := by
  rw [extract, found, List.findSome?_cons, read]
  rfl

end ToolCall

namespace Prompt

open ToolCall (openingFence closingFence firstBlock? blocks extract)

/-! ### What surrounds the names and descriptions -/

def listing (tools : List ToolOffer) : Text :=
  "You have access to the following tools:\n\n" ++ (tools.map toolLine).flatten

section

variable {tools : List ToolOffer}
  (offers : ∀ tool ∈ tools,
    ¬ openingFence <:+: tool.name ∧ ¬ openingFence <:+: tool.description)

include offers

theorem toolLines_unmarked : ¬ openingFence <:+: (tools.map toolLine).flatten := by
  induction tools with
  | nil => decide
  | cons tool tools ih =>
    obtain ⟨⟨name, description⟩, others⟩ := List.forall_mem_cons.mp offers
    have line : ((tool :: tools).map toolLine).flatten =
        [] ++ Text.ofString "- " ++ (tool.name ++ Text.ofString ": " ++ (tool.description ++
          Text.ofString "\n" ++ (tools.map toolLine).flatten)) := by
      simp [toolLine]
    rw [line]
    intro found
    -- A marker lies in front of a separator or behind it, so in one of the texts between them.
    rcases Text.infix_of_separated (by decide) (by decide) found with before | found
    · exact absurd before (by decide)
    rcases Text.infix_of_separated (by decide) (by decide) found with inName | found
    · exact name inName
    rcases Text.infix_of_separated (by decide) (by decide) found with inDescription | later
    · exact description inDescription
    · exact ih others later

theorem listing_unmarked : ¬ openingFence <:+: listing tools := by
  have heading : Text.ofString "You have access to the following tools:\n\n" =
      Text.ofString "You have access to the following tools:" ++ Text.ofString "\n\n" := by
    decide +kernel
  intro found
  rw [listing, heading] at found
  rcases Text.infix_of_separated (by decide) (by decide) found with inHeading | inLines
  · exact absurd inHeading (by decide +kernel)
  · exact toolLines_unmarked offers inLines

theorem exists_unmarked_lead {system prompt : Text} (unmarked : ¬ openingFence <:+: system)
    (made : prompt = forTools tools ∨ tools ≠ [] ∧ prompt = withTools system tools) :
    ∃ lead, ¬ openingFence <:+: lead ∧ prompt = lead ++ convention := by
  have listed := listing_unmarked offers
  rcases made with rfl | ⟨nonempty, rfl⟩
  · exact ⟨listing tools, listed, rfl⟩
  rw [withTools, if_neg nonempty]
  by_cases bare : system = []
  · rw [if_pos bare]
    exact ⟨listing tools, listed, rfl⟩
  · rw [if_neg bare]
    refine ⟨system ++ Text.ofString "\n\n" ++ listing tools, fun found => ?_, ?_⟩
    · exact (Text.infix_of_separated (by decide) (by decide) found).elim unmarked listed
    · simp [forTools, listing]

end

/-! ### The convention -/

theorem firstBlock?_convention :
    firstBlock? convention = some ("\n" ++ exampleCall ++ "\n", afterExample.drop 4) := by
  rfl

/-- The markers that the instructions name after the example make a second block. -/
theorem blocks_convention : blocks convention = [exampleCall, "and"] := by
  rw [ToolCall.blocks_eq, firstBlock?_convention]
  decide +kernel

/-- The first block that is read in a prompt is the example of its convention, byte for byte and
where the convention prints it, and so a reader that takes the example for a call finds that call. -/
theorem example_is_met_first {tools : List ToolOffer} {system prompt : Text}
    (offers : ∀ tool ∈ tools,
      ¬ openingFence <:+: tool.name ∧ ¬ openingFence <:+: tool.description)
    (unmarked : ¬ openingFence <:+: system)
    (made : prompt = forTools tools ∨ tools ≠ [] ∧ prompt = withTools system tools) :
    (∃ lead rest, prompt = lead ++ (beforeExample ++ exampleCall ++ afterExample) ∧
      afterExample = "\n" ++ closingFence ++ rest ∧
      firstBlock? prompt = some ("\n" ++ exampleCall ++ "\n", rest)) ∧
    blocks prompt = [exampleCall, "and"] ∧
    ∀ {γ : Type} (readBlock : Text → Option γ) (readObject : Text → Candidate γ) (call : γ),
      readBlock exampleCall = some call → extract readBlock readObject prompt = some call := by
  obtain ⟨lead, absent, rfl⟩ := exists_unmarked_lead offers unmarked made
  have stray : Byte.newline ∉ openingFence := by decide
  have starts : convention = Byte.newline :: convention.tail := by decide +kernel
  have first : firstBlock? (lead ++ convention) = firstBlock? convention := by
    rw [starts, ToolCall.firstBlock?_append_of_absent absent stray]
  have all : blocks (lead ++ convention) = [exampleCall, "and"] := by
    rw [starts, ToolCall.blocks_append_of_absent absent stray, ← starts, blocks_convention]
  refine ⟨⟨lead, _, rfl, by rfl, first.trans firstBlock?_convention⟩, all, ?_⟩
  intro γ readBlock readObject call read
  exact ToolCall.extract_of_first all read readObject

/-- Tools whose texts hold bare fences, and halves of a marker on either side of a seam. -/
def fencedTools : List ToolOffer :=
  [⟨"```", "json\n```js \x7b \"action\": "⟩, ⟨"``", "`json```"⟩]

def fencedSystem : Text := "Write ``json or ```\njson, then ```"

theorem example_is_met_behind_fences :
    (∀ tool ∈ fencedTools,
      ¬ openingFence <:+: tool.name ∧ ¬ openingFence <:+: tool.description) ∧
    ¬ openingFence <:+: fencedSystem ∧ fencedTools ≠ [] ∧
    blocks (forTools fencedTools) = [exampleCall, "and"] ∧
    blocks (withTools fencedSystem fencedTools) = [exampleCall, "and"] := by
  have offers : ∀ tool ∈ fencedTools,
      ¬ openingFence <:+: tool.name ∧ ¬ openingFence <:+: tool.description := by decide +kernel
  have unmarked : ¬ openingFence <:+: fencedSystem := by decide +kernel
  have nonempty : fencedTools ≠ [] := List.cons_ne_nil _ _
  obtain ⟨-, alone, -⟩ := example_is_met_first offers unmarked (.inl rfl)
  obtain ⟨-, behind, -⟩ := example_is_met_first offers unmarked (.inr ⟨nonempty, rfl⟩)
  exact ⟨offers, unmarked, nonempty, alone, behind⟩

/-- A marker in a description is met before the example. -/
example : (firstBlock? (forTools [⟨"a", "```json x ```"⟩])).map (·.1) = some (Text.ofString " x ") := by
  rfl

end Prompt

end ProviderHost
