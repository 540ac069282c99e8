import ProviderHost.Proofs.Lifecycle.Frame

/-!
# What is reported

Nothing that is done with an instance depends on the journal: the reports of an operation are the
same for every journal, which keeps those above its threshold. So an operation has one list of
reports, and `Journal.tell` says what becomes of a journal.
-/

namespace ProviderHost

/-- What is reported: how serious it is, and the message. -/
abbrev Report := Level × Text

namespace Journal

/-- Takes in one report after the other. -/
def tell (reports : List Report) (j : Journal) : Journal :=
  reports.foldl (fun j r => j.report r.1 r.2) j

theorem tell_append (first second : List Report) (j : Journal) :
    j.tell (first ++ second) = (j.tell first).tell second := List.foldl_append

theorem note_eq_tell (message : Option Text) (j : Journal) :
    j.note message = j.tell (message.toList.map (Prod.mk .debug)) := by
  cases message <;> rfl

end Journal

def IsDetail (r : Report) : Prop := r.1 = .debug

namespace Instance

variable {δ κ : Type}

theorem absorb_tells (i : Instance) (events : List ReaderEvent) :
    ∃ ring reports, (∀ j, i.absorb j events = ({ i with ring := ring }, j.tell reports)) ∧
      ∀ r ∈ reports, IsDetail r := by
  induction events generalizing i with
  | nil => exact ⟨i.ring, [], fun j => rfl, by simp⟩
  | cons event events ih =>
    cases event with
    | line stream text =>
      obtain ⟨ring, reports, told, details⟩ := ih { i with ring := i.ring.append stream text }
      by_cases quiet : i.quiet
      · exact ⟨ring, reports, fun j => by rw [absorb, if_pos quiet]; exact told j, details⟩
      · refine ⟨ring, (.debug, "[" ++ i.id ++ "] [" ++ stream.name ++ "] " ++ text) :: reports,
          fun j => by rw [absorb, if_neg quiet]; exact told _, fun r member => ?_⟩
        rcases List.mem_cons.mp member with rfl | member
        · rfl
        · exact details r member
    | note message =>
      obtain ⟨ring, reports, told, details⟩ := ih i
      refine ⟨ring, (.debug, message) :: reports, fun j => told _, fun r member => ?_⟩
      rcases List.mem_cons.mp member with rfl | member
      · rfl
      · exact details r member

variable [Document δ]

theorem recordStatus_tells (site : Site δ) (id : Text) (stage : Lifecycle) (files : Files) :
    ∃ files' reports, (∀ (k : κ) j, (⟨k, j, files⟩ : World κ).recordStatus site id stage =
      ⟨k, j.tell reports, files'⟩) ∧ ∀ r ∈ reports, IsDetail r := by
  unfold World.recordStatus
  dsimp only
  split
  · exact ⟨_, [], fun k j => rfl, by simp⟩
  · rename_i cause files' _
    exact ⟨files', [(.debug, "could not record status of " ++ id ++ ": " ++ cause.fault.message)],
      fun k j => rfl, by simp [IsDetail]⟩

theorem transition_tells (site : Site δ) {next : Lifecycle} {i : Instance}
    (differs : i.stage ≠ next) (files : Files) :
    ∃ files' details, (∀ (k : κ) j, i.transition site next ⟨k, j, files⟩ =
      ({ i with stage := next },
        ⟨k, j.tell ((.info, changeNotice i.id i.stage next) :: details), files'⟩)) ∧
      ∀ r ∈ details, IsDetail r := by
  obtain ⟨files', details, told, minor⟩ := recordStatus_tells (κ := κ) site i.id next files
  refine ⟨files', details, fun k j => ?_, minor⟩
  rw [transition, if_neg differs]
  exact congrArg _ (told k (j.info (changeNotice i.id i.stage next)))

end Instance

end ProviderHost
