import ProviderHost.Lifecycle.Teardown
import ProviderHost.Proofs.Child.Dealing

/-!
# Systems within systems

An embedding takes the states of one system to states of another in which every call answers the
same and leads on to the state that is meant. What the host does to a child cannot tell the two
apart: an operation answers the same in both, and leaves the image of what it leaves.
-/

namespace ProviderHost

def onState {α κ μ : Type} (f : κ → μ) (outcome : α × κ) : α × μ := (outcome.1, f outcome.2)

namespace Journal

theorem report_id (level : Level) (message : Text) (j : Journal) :
    (id j).report level message = id (j.report level message) := rfl

/-- The errors of a journal, in one that keeps no other entries and has no context. Every journal
keeps errors, so that this is the same one whatever else the journal keeps. -/
def errors (j : Journal) : Journal where
  threshold := .error
  entries := (j.entries.filter (Level.error.rank ≤ ·.rank)).map ({ · with context := [] })

theorem report_errors (level : Level) (message : Text) (j : Journal) :
    (errors j).report level message = errors (j.report level message) := by
  obtain ⟨context, threshold, entries⟩ := j
  cases level <;> cases threshold <;>
    simp [errors, Journal.report, Journal.reportAt, Level.rank]

end Journal

/-- One system within another. Its reports come into a journal that may hold other entries. -/
structure Embedding (κ μ : Type) [Kernel κ] [Kernel μ] where
  kernel : κ → μ
  journal : Journal → Journal := id
  report : ∀ level message j,
    (journal j).report level message = journal (j.report level message)
  now : ∀ k, Kernel.now (kernel k) = Kernel.now k
  sleep : ∀ d k, Kernel.sleep d (kernel k) = kernel (Kernel.sleep d k)
  start : ∀ files launch env k, Kernel.start files launch env (kernel k) =
    onState kernel (Kernel.start files launch env k)
  poll : ∀ pid k, Kernel.poll pid (kernel k) = onState kernel (Kernel.poll pid k)
  reap : ∀ pid k, Kernel.reap pid (kernel k) = kernel (Kernel.reap pid k)
  signalGroup : ∀ pid s k, Kernel.signalGroup pid s (kernel k) =
    onState kernel (Kernel.signalGroup pid s k)
  signalProcess : ∀ pid s k, Kernel.signalProcess pid s (kernel k) =
    onState kernel (Kernel.signalProcess pid s k)
  read : ∀ pid s k, Kernel.read pid s (kernel k) =
    onState kernel (Kernel.read pid s k)
  closeInput : ∀ pid k, Kernel.closeInput pid (kernel k) = kernel (Kernel.closeInput pid k)
  closeOutputs : ∀ pid k, Kernel.closeOutputs pid (kernel k) = kernel (Kernel.closeOutputs pid k)
  healthStatus : ∀ u path t k, Kernel.healthStatus u path t (kernel k) =
    onState kernel (Kernel.healthStatus u path t k)
  greet : ∀ peer t k, Kernel.greet peer t (kernel k) =
    onState kernel (Kernel.greet peer t k)
  listTools : ∀ peer t k, Kernel.listTools peer t (kernel k) =
    onState kernel (Kernel.listTools peer t k)
  callTool : ∀ peer tool arguments t k, Kernel.callTool peer tool arguments t (kernel k) =
    onState kernel (Kernel.callTool peer tool arguments t k)
  dismiss : ∀ peer t k, Kernel.dismiss peer t (kernel k) =
    onState kernel (Kernel.dismiss peer t k)

namespace Child

variable {κ μ : Type} [Kernel κ] [Kernel μ] (φ : Embedding κ μ)

theorem isRunning_embed (c : Child) (k : κ) :
    c.isRunning (φ.kernel k) = onState (onState φ.kernel) (c.isRunning k) := by
  cases held : c.reaped with
  | true =>
    rw [isRunning_of_reaped held, isRunning_of_reaped held]
    rfl
  | false =>
    rw [isRunning_of_held held, isRunning_of_held held, φ.poll]
    rfl

theorem signal_embed (c : Child) (s : Signal) (k : κ) :
    c.signal s (φ.kernel k) = onState φ.kernel (c.signal s k) := by
  unfold signal
  rw [φ.signalGroup]
  generalize Kernel.signalGroup c.pid s k = sent
  obtain ⟨delivered, k'⟩ := sent
  cases delivered with
  | true => rfl
  | false => exact φ.signalProcess c.pid s k'

theorem signalIfRunning_embed (c : Child) (s : Signal) (k : κ) :
    c.signalIfRunning s (φ.kernel k) = onState (onState φ.kernel) (c.signalIfRunning s k) := by
  unfold signalIfRunning
  rw [isRunning_embed]
  generalize c.isRunning k = asked
  obtain ⟨running, c', k'⟩ := asked
  cases running with
  | false => rfl
  | true =>
    simp only [onState, signal_embed]

theorem waitUntil_embed (deadline : Nat) (c : Child) (k : κ) :
    c.waitUntil deadline (φ.kernel k) = onState (onState φ.kernel) (c.waitUntil deadline k) := by
  induction c, k using @waitUntil.induct κ _ deadline with
  | case1 c k c' k' asked =>
    rw [waitUntil_eq, waitUntil_eq, isRunning_embed, asked]
    rfl
  | case2 c k c' k' asked early ih =>
    rw [waitUntil_eq, waitUntil_eq deadline c k, isRunning_embed, asked]
    simp only [onState, φ.now, if_pos early, φ.sleep]
    exact ih
  | case3 c k c' k' asked late =>
    rw [waitUntil_eq, waitUntil_eq deadline c k, isRunning_embed, asked]
    simp only [onState, φ.now, if_neg late]

theorem waitForExit_embed (timeout : Nat) (c : Child) (k : κ) :
    c.waitForExit timeout (φ.kernel k) = onState (onState φ.kernel) (c.waitForExit timeout k) := by
  unfold waitForExit
  rw [φ.now, waitUntil_embed]

theorem release_embed (c : Child) (k : κ) :
    c.release (φ.kernel k) = onState φ.kernel (c.release k) := by
  unfold release
  rw [isRunning_embed]
  generalize c.isRunning k = asked
  obtain ⟨running, c', k'⟩ := asked
  cases running with
  | false => rfl
  | true => simp only [onState, signal_embed, φ.reap]

theorem spawn_embed (files : Files) (launch : Launch) (env : List Text) (k : κ) :
    spawn files launch env (φ.kernel k) = onState φ.kernel (spawn files launch env k) := by
  unfold spawn
  rw [φ.start]
  generalize Kernel.start files launch env k = made
  obtain ⟨answer, k'⟩ := made
  cases answer with
  | error cause => rfl
  | ok started =>
    obtain ⟨pid, fault⟩ := started
    cases fault with
    | none => rfl
    | some cause => simp only [onState, waitForExit_embed, release_embed]

theorem insist_embed (c : Child) (k : κ) :
    c.insist (φ.kernel k) = onState (onState φ.kernel) (c.insist k) := by
  unfold insist kill
  rw [signalIfRunning_embed]
  generalize c.signalIfRunning .kill k = sent
  obtain ⟨delivered, c', k'⟩ := sent
  simp only [onState, waitForExit_embed]
  generalize c'.waitForExit killWait k' = waited
  obtain ⟨ended, c'', k''⟩ := waited
  cases ended <;> rfl

theorem shutDown_embed (grace : Nat) (c : Child) (k : κ) :
    c.shutDown grace (φ.kernel k) = onState (onState φ.kernel) (c.shutDown grace k) := by
  unfold shutDown terminate
  rw [signalIfRunning_embed]
  generalize c.signalIfRunning .term k = asked
  obtain ⟨delivered, c', k'⟩ := asked
  cases delivered with
  | false => rfl
  | true =>
    simp only [onState, waitForExit_embed]
    generalize c'.waitForExit grace k' = waited
    obtain ⟨ended, c'', k''⟩ := waited
    cases ended with
    | true => rfl
    | false => exact insist_embed φ c'' k''

end Child

/-! ### Relations that a system keeps -/

namespace Kernel

variable {κ : Type} [Kernel κ]

inductive Step : κ → κ → Prop
  | sleep (d : Nat) (k : κ) : Step k (Kernel.sleep d k)
  | poll (pid : Nat) (k : κ) : Step k (Kernel.poll pid k).2
  | reap (pid : Nat) (k : κ) : Step k (Kernel.reap pid k)
  | signalGroup (pid : Nat) (s : Signal) (k : κ) : Step k (Kernel.signalGroup pid s k).2
  | signalProcess (pid : Nat) (s : Signal) (k : κ) : Step k (Kernel.signalProcess pid s k).2
  | read (pid : Nat) (s : Stream) (k : κ) : Step k (Kernel.read pid s k).2
  | closeInput (pid : Nat) (k : κ) : Step k (Kernel.closeInput pid k)
  | closeOutputs (pid : Nat) (k : κ) : Step k (Kernel.closeOutputs pid k)
  | healthStatus (u : Url) (path : Text) (t : Nat) (k : κ) :
    Step k (Kernel.healthStatus u path t k).2
  | greet (peer : Peer) (t : Nat) (k : κ) : Step k (Kernel.greet peer t k).2
  | listTools (peer : Peer) (t : Nat) (k : κ) : Step k (Kernel.listTools peer t k).2
  | callTool (peer : Peer) (tool arguments : Text) (t : Nat) (k : κ) :
    Step k (Kernel.callTool peer tool arguments t k).2
  | dismiss (peer : Peer) (t : Nat) (k : κ) : Step k (Kernel.dismiss peer t k).2

/-- A relation between earlier and later states that holds over every call. -/
structure Kept (R : κ → κ → Prop) : Prop where
  refl : ∀ k, R k k
  trans : ∀ {k k' k''}, R k k' → R k' k'' → R k k''
  step : ∀ {k k'}, Step k k' → R k k'
  start : ∀ files launch env k, R k (Kernel.start files launch env k).2

end Kernel

/-- The states of a system that stand in a relation to an earlier one. Being a system itself, it
shows that every operation keeps the relation. -/
structure Since {κ : Type} [Kernel κ] {R : κ → κ → Prop} (kept : Kernel.Kept R) (origin : κ) where
  kernel : κ
  related : R origin kernel

namespace Since

variable {κ : Type} [Kernel κ] {R : κ → κ → Prop} {kept : Kernel.Kept R} {origin : κ}

def next (s : Since kept origin) (k : κ) (led : R s.kernel k) : Since kept origin :=
  ⟨k, kept.trans s.related led⟩

def pass {α : Type} (s : Since kept origin) (outcome : α × κ) (led : R s.kernel outcome.2) :
    α × Since kept origin := (outcome.1, s.next outcome.2 led)

instance : Kernel (Since kept origin) where
  now s := Kernel.now s.kernel
  sleep d s := s.next _ (kept.step (.sleep d s.kernel))
  start files launch env s := s.pass _ (kept.start files launch env s.kernel)
  poll pid s := s.pass _ (kept.step (.poll pid s.kernel))
  ends wait s := Kernel.ends wait s.kernel
  reap pid s := s.next _ (kept.step (.reap pid s.kernel))
  signalGroup pid signal s := s.pass _ (kept.step (.signalGroup pid signal s.kernel))
  signalProcess pid signal s := s.pass _ (kept.step (.signalProcess pid signal s.kernel))
  read pid stream s := s.pass _ (kept.step (.read pid stream s.kernel))
  closeInput pid s := s.next _ (kept.step (.closeInput pid s.kernel))
  closeOutputs pid s := s.next _ (kept.step (.closeOutputs pid s.kernel))
  healthStatus u path t s := s.pass _ (kept.step (.healthStatus u path t s.kernel))
  greet peer t s := s.pass _ (kept.step (.greet peer t s.kernel))
  listTools peer t s := s.pass _ (kept.step (.listTools peer t s.kernel))
  callTool peer tool arguments t s :=
    s.pass _ (kept.step (.callTool peer tool arguments t s.kernel))
  dismiss peer t s := s.pass _ (kept.step (.dismiss peer t s.kernel))
  now_le_poll pid s := Kernel.now_le_poll pid s.kernel
  now_lt_sleep d s := Kernel.now_lt_sleep d s.kernel
  now_le_healthStatus u path t s := Kernel.now_le_healthStatus u path t s.kernel

def embedding (kept : Kernel.Kept R) (origin : κ) : Embedding (Since kept origin) κ where
  kernel := Since.kernel
  report := Journal.report_id
  now _ := rfl
  sleep _ _ := rfl
  start _ _ _ _ := rfl
  poll _ _ := rfl
  reap _ _ := rfl
  signalGroup _ _ _ := rfl
  signalProcess _ _ _ := rfl
  read _ _ _ := rfl
  closeInput _ _ := rfl
  closeOutputs _ _ := rfl
  healthStatus _ _ _ _ := rfl
  greet _ _ _ := rfl
  listTools _ _ _ := rfl
  callTool _ _ _ _ _ := rfl
  dismiss _ _ _ := rfl

end Since

/-! ### Journals -/

namespace Embedding

variable {κ μ : Type} [Kernel κ] [Kernel μ]

/-- The system itself, with earlier entries in the journal. -/
def after (κ : Type) [Kernel κ] (entries : List JournalEntry) : Embedding κ κ where
  kernel k := k
  journal j := { j with entries := entries ++ j.entries }
  report level message j := by
    unfold Journal.report Journal.reportAt
    dsimp only
    split
    · rfl
    · rw [List.append_assoc]
  now _ := rfl
  sleep _ _ := rfl
  start _ _ _ _ := rfl
  poll _ _ := rfl
  reap _ _ := rfl
  signalGroup _ _ _ := rfl
  signalProcess _ _ _ := rfl
  read _ _ _ := rfl
  closeInput _ _ := rfl
  closeOutputs _ _ := rfl
  healthStatus _ _ _ _ := rfl
  greet _ _ _ := rfl
  listTools _ _ _ := rfl
  callTool _ _ _ _ _ := rfl
  dismiss _ _ _ := rfl

def hushed (φ : Embedding κ μ) : Embedding κ μ :=
  { φ with journal := Journal.errors, report := Journal.report_errors }

end Embedding

end ProviderHost
