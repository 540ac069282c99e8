import ProviderHost.Proofs.Child.Partition
import ProviderHost.Proofs.Lifecycle.Filing
import ProviderHost.Proofs.Lifecycle.Slots
import ProviderHost.Store.Roster
import ProviderHost.System

/-!
# Providers that do not interfere

A controller keeps its providers apart as far as the system does. In a system with a part for each
provider, what is seen of a provider in a run is what is seen of it in the run of its own events.
-/

namespace ProviderHost

namespace Controller

variable {δ κ μ : Type} [Kernel κ] [Kernel μ]

/-- What a controller knows of a provider is what another one knows of it, in an embedded system.
Each has a journal of its own. -/
structure Follows (φ : Embedding κ μ) (id : Text) (c : Controller δ κ) (c' : Controller δ μ) :
    Prop where
  site : c'.site = c.site
  kernel : c'.world.kernel = φ.kernel c.world.kernel
  files : c'.world.files = c.world.files
  slot : c'.slot id = c.slot id

theorem Mirrors.follows {φ : Embedding κ μ} {id : Text} {c : Controller δ κ}
    {c' : Controller δ μ} (m : Mirrors φ id c c') : Follows φ id c c' where
  site := m.site
  kernel := m.kernel
  files := m.files
  slot := m.slot

variable [Document δ]

theorem serve_of_hushed {φ : Embedding κ μ} {r : Request} {c : Controller δ κ}
    {c' : Controller δ μ} (f : Follows φ r.owner c c')
    (hushed : c'.world.journal = { threshold := .error }) :
    (c'.serve r).1 = (c.serve r).1 ∧ Follows φ r.owner (c.serve r).2 (c'.serve r).2 := by
  -- Both controllers are images of one that has nothing in its journal.
  let bare : Controller δ κ :=
    { c with world := { c.world with journal := { c.world.journal with entries := [] } } }
  have original : Mirrors (.after κ c.world.journal.entries) r.owner bare c := by
    refine ⟨rfl, ?_, rfl⟩
    show c.world = ⟨_, { c.world.journal with entries := c.world.journal.entries ++ [] }, _⟩
    rw [List.append_nil]
    rfl
  have image : Mirrors φ.hushed r.owner bare c' := by
    refine ⟨f.site, ?_, f.slot⟩
    show c'.world = ⟨φ.kernel c.world.kernel, { threshold := .error }, c.world.files⟩
    rw [← f.kernel, ← f.files, ← hushed]
  obtain ⟨answer, served⟩ := serve_agree r original
  obtain ⟨answer', served'⟩ := serve_agree r image
  have follows := served.follows
  have follows' := served'.follows
  exact ⟨answer'.trans answer.symm, follows'.site.trans follows.site.symm,
    follows'.kernel.trans (congrArg φ.kernel follows.kernel.symm),
    follows'.files.trans follows.files.symm, follows'.slot.trans follows.slot.symm⟩

theorem serve_follows {φ : Embedding κ μ} {r : Request} {c : Controller δ κ} {c' : Controller δ μ}
    (f : Follows φ r.owner c c') :
    (c'.serve r).1 = (c.serve r).1 ∧ Follows φ r.owner (c.serve r).2 (c'.serve r).2 := by
  -- Neither journal comes from the other, but both come down to a journal of errors.
  let hushed : Controller δ μ :=
    { c' with world := { c'.world with journal := { threshold := .error } } }
  have image : Follows φ r.owner c hushed := ⟨f.site, f.kernel, f.files, f.slot⟩
  have same : Follows (.after μ []) r.owner c' hushed := ⟨rfl, rfl, rfl, rfl⟩
  obtain ⟨answer, follows⟩ := serve_of_hushed image rfl
  obtain ⟨answer', follows'⟩ := serve_of_hushed same rfl
  exact ⟨answer'.symm.trans answer, follows'.site.symm.trans follows.site,
    follows'.kernel.symm.trans follows.kernel, follows'.files.symm.trans follows.files,
    follows'.slot.symm.trans follows.slot⟩

/-! ### Runs -/

inductive Event (μ : Type) where
  | request (r : Request)
  | disturb (id : Text) (change : μ → μ)

def Event.owner : Event μ → Text
  | .request r => r.owner
  | .disturb id _ => id

/-- Takes an event in, where each provider has the system for itself. -/
def follow (c : Controller δ μ) : Event μ → Answer × Controller δ μ
  | .request r => c.serve r
  | .disturb _ change => (.nothing, c.disturb change)

variable [Partitioned κ μ]

def inTurn (id : Text) (c : Controller δ κ) : Controller δ κ := c.disturb (Partitioned.give id)

omit [Document δ] in
@[simp] theorem turn_inTurn (id : Text) (c : Controller δ κ) :
    Partitioned.turn (c.inTurn id).world.kernel = id := Partitioned.turn_give _ _

omit [Document δ] in
@[simp] theorem part_inTurn (id other : Text) (c : Controller δ κ) :
    Partitioned.part other (c.inTurn id).world.kernel = Partitioned.part other c.world.kernel :=
  Partitioned.part_give _ _ _

/-- Takes an event in. A request is served in its provider's turn. -/
def take (c : Controller δ κ) : Event μ → Answer × Controller δ κ
  | .request r => (c.inTurn r.owner).serve r
  | .disturb id change => (.nothing, c.disturb (Partitioned.amend id change))

/-- A controller that has the part of a provider for its system. -/
structure Shows (id : Text) (c : Controller δ κ) (c' : Controller δ μ) : Prop where
  site : c'.site = c.site
  part : c'.world.kernel = Partitioned.part id c.world.kernel
  files : c'.world.files = c.world.files
  slot : c'.slot id = c.slot id

theorem take_own {e : Event μ} {c : Controller δ κ} {c' : Controller δ μ}
    (s : Shows e.owner c c') :
    (c'.follow e).1 = (c.take e).1 ∧ Shows e.owner (c.take e).2 (c'.follow e).2 := by
  cases e with
  | disturb id change =>
    refine ⟨rfl, s.site, ?_, s.files, s.slot⟩
    show change c'.world.kernel = Partitioned.part id (Partitioned.amend id change c.world.kernel)
    rw [Partitioned.part_amend, if_pos rfl, s.part]
    rfl
  | request r =>
    have follows : Follows Partitioned.own r.owner (c.inTurn r.owner) c' := by
      refine ⟨s.site, ?_, s.files, s.slot⟩
      rw [Partitioned.kernel_own, turn_inTurn, part_inTurn]
      exact s.part
    obtain ⟨answer, left⟩ := serve_follows follows
    have held := (serve_kernel Partitioned.kept r (c.inTurn r.owner)).1.trans (turn_inTurn _ c)
    refine ⟨answer, left.site, ?_, left.files, left.slot⟩
    show (c'.serve r).2.world.kernel =
      Partitioned.part r.owner ((c.inTurn r.owner).serve r).2.world.kernel
    rw [left.kernel, Partitioned.kernel_own, held]

theorem sameBut_take (e : Event μ) (c : Controller δ κ) : SameBut e.owner c (c.take e).2 := by
  cases e with
  | disturb id change => exact .of_slots rfl rfl
  | request r =>
    have same := sameBut_serve r (c.inTurn r.owner)
    exact ⟨same.site, same.slot⟩

theorem part_take {id : Text} {e : Event μ} (other : id ≠ e.owner) (c : Controller δ κ) :
    Partitioned.part id (c.take e).2.world.kernel = Partitioned.part id c.world.kernel := by
  cases e with
  | disturb id' change =>
    exact (Partitioned.part_amend id' change id c.world.kernel).trans (if_neg other)
  | request r =>
    have waiting : id ≠ Partitioned.turn (c.inTurn r.owner).world.kernel := by
      rw [turn_inTurn]
      exact other
    have unmoved := (serve_kernel Partitioned.kept r (c.inTurn r.owner)).2 id waiting
    exact unmoved.trans (part_inTurn r.owner id c)

theorem take_keeps {P : Files → Prop} {c : Controller δ κ}
    (kept : Store.Keeps δ c.site.registry P) (holds : P c.world.files) (e : Event μ) :
    P (c.take e).2.world.files := by
  cases e with
  | disturb id change => exact holds
  | request r =>
    exact serve_keeps (c := c.inTurn r.owner) kept holds r

theorem take_other {id : Text} {e : Event μ} {c : Controller δ κ} {c' : Controller δ μ}
    (s : Shows id c c') (other : id ≠ e.owner) (files : (c.take e).2.world.files = c.world.files) :
    Shows id (c.take e).2 c' where
  site := s.site.trans (sameBut_take e c).site.symm
  part := s.part.trans (part_take other c).symm
  files := s.files.trans files.symm
  slot := s.slot.trans ((sameBut_take e c).slot id other).symm

/-- What a run shows of a provider is what its own events show of it in its own part of the
system. -/
theorem run_shows {id : Text} {files : Files} {c : Controller δ κ} {c' : Controller δ μ}
    (kept : Store.Keeps δ c.site.registry (· = files)) (holds : c.world.files = files)
    (s : Shows id c c') (events : List (Event μ)) :
    (takeSteps take c events).1.filter (·.1.owner = id) =
        (takeSteps follow c' (events.filter (·.owner = id))).1 ∧
      Shows id (takeSteps take c events).2
        (takeSteps follow c' (events.filter (·.owner = id))).2 := by
  induction events generalizing c c' with
  | nil => exact ⟨rfl, s⟩
  | cons e events ih =>
    have still : (c.take e).2.world.files = files := take_keeps kept holds e
    have kept' : Store.Keeps δ (c.take e).2.site.registry (· = files) := by
      rw [(sameBut_take e c).site]
      exact kept
    by_cases own : e.owner = id
    · subst own
      obtain ⟨answer, s'⟩ := take_own s
      obtain ⟨history, last⟩ := ih kept' still s'
      simp only [takeSteps_cons, List.filter_cons, decide_true, ↓reduceIte, history, answer]
      exact ⟨trivial, last⟩
    · obtain ⟨history, last⟩ := ih kept' still
        (take_other s (Ne.symm own) (still.trans holds.symm))
      simp only [takeSteps_cons, List.filter_cons, own, decide_false, Bool.false_eq_true,
        ↓reduceIte, history]
      exact ⟨trivial, last⟩

/-- What is seen of a provider: the answers to its own events, what the controller knows of it in
the end, and its part of the system then. -/
def seen (id : Text) (run : List (Event μ × Answer) × Controller δ κ) :
    List (Event μ × Answer) × Slot × μ :=
  (run.1.filter (·.1.owner = id), run.2.slot id, Partitioned.part id run.2.world.kernel)

omit [Document δ] in
theorem seen_of_shows {id : Text} {history : List (Event μ × Answer)} {c : Controller δ κ}
    {run : List (Event μ × Answer) × Controller δ μ}
    (own : history.filter (·.1.owner = id) = run.1) (last : Shows id c run.2) :
    seen id (history, c) = (run.1, run.2.slot id, run.2.world.kernel) := by
  rw [seen, own, last.slot, last.part]

/-- Over a registry that cannot be read, what is seen of a provider in a run is what is seen of it
in the run of its own events, however they are mixed with those of other providers. So two events
of different providers may change places. -/
theorem providers_do_not_interfere {c : Controller δ κ} {cause : StoreFault}
    (unreadable :
      (Store.load c.world.files c.site.registry : Except StoreFault δ) = .error cause) :
    (∀ id (events : List (Event μ)), seen id (takeSteps take c events) =
      seen id (takeSteps take c (events.filter (·.owner = id)))) ∧
    ∀ (before after : List (Event μ)) (e e' : Event μ), e.owner ≠ e'.owner →
      ∀ id, seen id (takeSteps take c (before ++ e :: e' :: after)) =
        seen id (takeSteps take c (before ++ e' :: e :: after)) := by
  have kept := Store.keeps_of_unreadable unreadable
  have alone (id : Text) (events : List (Event μ)) : seen id (takeSteps take c events) =
      seen id (takeSteps take c (events.filter (·.owner = id))) := by
    let part : Controller δ μ :=
      { site := c.site, slots := c.slots
        world := ⟨Partitioned.part id c.world.kernel, {}, c.world.files⟩ }
    have first : Shows id c part := ⟨rfl, rfl, rfl, rfl⟩
    obtain ⟨history, last⟩ := run_shows kept rfl first events
    obtain ⟨history', last'⟩ := run_shows kept rfl first (events.filter (·.owner = id))
    simp only [List.filter_filter, Bool.and_self] at history' last'
    exact (seen_of_shows history last).trans (seen_of_shows history' last').symm
  refine ⟨alone, fun before after e e' different id => ?_⟩
  have same : (before ++ e :: e' :: after).filter (·.owner = id) =
      (before ++ e' :: e :: after).filter (·.owner = id) := by
    simp only [List.filter_append, List.filter_cons]
    by_cases own : e.owner = id
    · have other : e'.owner ≠ id := fun own' => different (own.trans own'.symm)
      simp [own, other]
    · simp [own]
  rw [alone id (before ++ e :: e' :: after), same, ← alone]

omit [Kernel κ] [Kernel μ] [Partitioned κ μ] in
theorem load_of_socket {files : Files} {path : Text} {place : Place}
    (found : files.stat path = .ok (place, .socket)) :
    (Store.load files path : Except StoreFault δ) = .error (.unreadable path) := by
  simp [Store.load, Files.exists?, Files.content?, found, Except.isOk, Except.toBool]

/-- Two providers, in a system for each, over a registry that is a socket. One is stopped and
launched anew while the other one is started, and uninstalled in the end. -/
theorem providers_of_two_systems :
    let idle (id : Text) : Instance := { id := id, ring := .ofCapacity 10, stage := .running }
    let files : Files := { root := .directory [("registry", .socket)], workingDirectory := [] }
    let c : Controller Roster (Systems System) :=
      { site := { registry := "registry" }, world := ⟨{ part := fun _ => {} }, {}, files⟩
        slots := .ofList [("near", { live := idle "near" }), ("far", { live := idle "far" })] }
    let start : Event System := .request (.start "near")
    let halt : Event System := .request (.stop "far")
    seen "near" (takeSteps take c [halt, start, .disturb "far" (System.elapse 5),
        .request (.launch { id := "far" }), .request (.uninstall "near")]) =
      seen "near" (takeSteps take c [start, .request (.uninstall "near")]) ∧
    ∀ id, seen id (takeSteps take c [halt, start]) = seen id (takeSteps take c [start, halt]) := by
  intro idle files c start halt
  have found : files.stat "registry" = .ok ([("registry" : Text)], .socket) := by
    show files.walk true Files.maxLinks [] files.root [("registry" : Text)] >>=
      Files.destinationNode = _
    unfold Files.walk
    show files.walk true Files.maxLinks [("registry" : Text)] .socket [] >>=
      Files.destinationNode = _
    unfold Files.walk
    rfl
  obtain ⟨alone, swap⟩ :=
    providers_do_not_interfere (c := c) (μ := System) (load_of_socket found)
  exact ⟨alone "near" _, swap [] [] halt start (by decide)⟩

end Controller

end ProviderHost
