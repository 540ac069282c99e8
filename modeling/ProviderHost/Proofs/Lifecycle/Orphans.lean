import ProviderHost.Proofs.Child.Group
import ProviderHost.Proofs.Lifecycle.Launching
import ProviderHost.Proofs.Lifecycle.Mirror
import ProviderHost.Proofs.Lifecycle.Teardown
import ProviderHost.Store.Roster
import ProviderHost.System

/-!
# What a stop leaves of a process group

A stop ends the whole group of a process that is there to be killed. As soon as the process itself
is gone, nothing is done about the rest of its group.
-/

namespace ProviderHost

namespace Controller

open Child (Deal Course)

variable {δ κ : Type} [Document δ] [Kernel κ]

/-- Ending an instance and giving its process up is a course of dealings, after which the process
is known to be gone. -/
theorem takeOut_deals (id : Text) (graceful : Bool) (i : Instance)
    (c : Controller δ (Recorded κ)) :
    Instance.ChildLed Deal i c.world.kernel (c.takeOut id graceful i).1
      (c.takeOut id graceful i).2.world.kernel ∧
    ∀ p, (c.takeOut id graceful i).1.child = some p → p.reaped := by
  obtain ⟨site, ⟨k, j, files⟩, slots⟩ := c
  obtain ⟨i₁, k₁, files₁, first, prepared, conduct₁⟩ := i.tearDown_prepared site graceful k files
  obtain ⟨i₂, k₂, second, ended, conduct₂⟩ := i₁.endProcess_conduct site.settings k₁ files₁
  obtain ⟨files₃, third, changed, conduct₃⟩ := i₂.transition_conduct site .stopped k₂ files₁
  obtain ⟨i₄, k₄, released, conduct₄, gone⟩ :=
    { i₂ with stage := .stopped }.releaseChild_conduct k₂ files₃
  simp only [takeOut, Instance.retire, prepared, ended, changed, released]
  exact ⟨((conduct₁.child.deals.trans conduct₂.child).trans conduct₃.child.deals).trans
    conduct₄.child, gone⟩

/-- The calls of a stop are dealings with the process, which is known to be gone at the end. -/
theorem stop_deals {id : Text} {c : Controller δ (Recorded κ)} {i : Instance} {p : Child}
    (present : c.instance? id = some i) (held : i.child = some p) :
    ∃ calls p', c.world.kernel.Extends calls (c.stop id).world.kernel ∧
      Course Deal p calls p' ∧ p'.reaped := by
  let told : Controller δ (Recorded κ) :=
    { c with world := c.world.info ("stopping provider " ++ id) }
  have stopped : c.stop id = (told.takeOut id true i).2 := by
    simp only [stop, halt, evict, present]
    rfl
  obtain ⟨led, gone⟩ := told.takeOut_deals id true i
  obtain ⟨p', held', calls, noted, course⟩ := led.present p held
  rw [stopped]
  exact ⟨calls, p', noted, course, gone p' held'⟩

variable [Grouped κ]

open Child (FoundGone KillTried)
open Grouped (IsEmpty FollowsLeader)

/-- A provider is stopped whose process leads a group. Unless the process is known to be gone, it
is killed with its group, or found gone. A group that a kill was sent to has nobody left in it
afterwards, whatever its members do about a request to end; and so has a group that follows its
leader. Of a process that is known to be gone, nothing is done about its group. A request to end
is only refused when the process is gone, or nobody is left in its group. -/
theorem stop_ends_the_group_unless_its_leader_is_gone (id : Text) (c : Controller δ (Recorded κ))
    (i : Instance) (leader : Child) (present : c.instance? id = some i)
    (held : i.child = some leader) :
    (∃ calls, c.world.kernel.Extends calls (c.stop id).world.kernel ∧
      (leader.reaped → calls = []) ∧
      (leader.reaped = false → FoundGone leader.pid calls ∨ KillTried leader.pid calls) ∧
      (KillTried leader.pid calls → IsEmpty leader.pid (c.stop id).world.kernel.kernel) ∧
      (FollowsLeader κ leader.pid →
        (leader.reaped → IsEmpty leader.pid c.world.kernel.kernel) →
        IsEmpty leader.pid (c.stop id).world.kernel.kernel)) ∧
    ∀ k : κ, (leader.terminate k).1 = false →
      leader.reaped ∨ (Kernel.poll leader.pid k).1 ≠ .alive ∨
        IsEmpty leader.pid (leader.terminate k).2.2 := by
  refine ⟨?_, fun k refused => Child.terminate_refused refused⟩
  obtain ⟨calls, p', noted, course, gone⟩ := stop_deals present held
  obtain ⟨calls', noted', clears⟩ :
      Recorded.Clears leader.pid c.world.kernel (c.stop id).world.kernel :=
    serve_kernel (Recorded.clears_kept leader.pid) (.stop id) c
  obtain rfl : calls' = calls := List.append_cancel_left (noted'.symm.trans noted)
  have known : ∀ e ∈ calls', e.call.target? ≠ none := fun e member => by
    rw [course.targets e member]
    nofun
  have killed : KillTried leader.pid calls' → IsEmpty leader.pid (c.stop id).world.kernel.kernel :=
    fun ⟨e, member, taken, kill⟩ => clears known (.inr ⟨e, member, by rw [kill]; exact ⟨rfl, rfl⟩⟩)
  refine ⟨calls', noted, fun reaped => course.of_reaped reaped, fun held => course.gone held gone,
    killed, fun follows empty => ?_⟩
  cases reaped : leader.reaped with
  | true => exact clears known (.inl (empty reaped))
  | false =>
    rcases course.gone reaped gone with ⟨e, member, answer, poll, ended⟩ | tried
    · exact clears known (.inr ⟨e, member, by rw [poll]; exact ⟨follows, rfl, ended⟩⟩)
    · exact killed tried

/-- A provider with a process that leads its group. -/
def withProcess (pid : Nat) (k : κ) : Controller Roster κ :=
  { site := {}
    world := ⟨k, {}, {}⟩
    slots := .ofList [("p", {
      live := some { id := "p", child := some { pid := pid }, ring := .ofCapacity 10,
                     stage := .running } })] }

/-- A band that ignores the request to end is killed. -/
theorem stop_of_a_heedless_band :
    IsEmpty 7 ((withProcess 7 ({ kernel := { pids := [7, 8], heedless := true } } :
      Recorded Band)).stop "p").world.kernel.kernel := by
  obtain ⟨⟨calls, -, -, -, -, followed⟩, -⟩ :=
    stop_ends_the_group_unless_its_leader_is_gone "p" (withProcess 7
      ({ kernel := { pids := [7, 8], heedless := true } } : Recorded Band)) _ { pid := 7 } rfl rfl
  exact followed (Band.followsLeader 7) nofun

/-- The process has ended, and a member of its group ignores the request to end. The stop succeeds
without any complaint, the provider has no instance any more, and the member goes on; a request to
end the group is refused though there is somebody in it. -/
theorem stop_leaves_an_orphan_running :
    let leader : Process :=
      { pid := 1000, group := 1000, parent := Process.host, status := .dead (.exited 4),
        directory := [] }
    let orphan : Process :=
      { pid := 1001, group := 1000, parent := Process.caretaker, status := .running (.exit 0),
        dispositions := [(SignalNumber.terminate, .ignored)], directory := [] }
    let c := withProcess 1000 ({ processes := [leader, orphan] } : System)
    (c.halt "p").1 = .ok () ∧ (c.stop "p").hasInstance "p" = false ∧
    (c.stop "p").world.journal.entries.map (·.message) =
      [("stopping provider p" : Text), "provider p: running -> stopped"] ∧
    (c.stop "p").world.kernel.processes = [orphan] ∧
    (Child.terminate { pid := 1000 } c.world.kernel).1 = false :=
  ⟨rfl, rfl, rfl, rfl, rfl⟩

end Controller

end ProviderHost
