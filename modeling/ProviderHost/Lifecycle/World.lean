import ProviderHost.Lifecycle.Instance
import ProviderHost.Store

/-!
# The world of an instance

What an instance acts on: the system, the journal and the files. A `Site` says what stays the
same while the host runs. Every change of an instance's stage goes through `transition`, which
reports it and notes it in the registry; a change to the same stage is none.
-/

namespace ProviderHost

/-- Where a host works. Its registry is kept as documents of type `δ`. -/
structure Site (δ : Type) where
  settings : Settings := {}
  registry : Text := settings.registryPath
  searchPath : Option Text := none
  environment : List Text := []
  /-- How a line of a provider's standard output is read. -/
  decode : Text → Frame := fun _ => .noise

structure World (κ : Type) where
  kernel : κ
  journal : Journal := {}
  files : Files

namespace World

variable {δ κ : Type}

def debug (message : Text) (w : World κ) : World κ := { w with journal := w.journal.debug message }
def info (message : Text) (w : World κ) : World κ := { w with journal := w.journal.info message }
def warn (message : Text) (w : World κ) : World κ := { w with journal := w.journal.warn message }
def error (message : Text) (w : World κ) : World κ := { w with journal := w.journal.error message }

/-- Notes a stage in the registry. A note that fails is only reported. -/
def recordStatus [Document δ] (site : Site δ) (id : Text) (stage : Lifecycle) (w : World κ) :
    World κ :=
  match Store.recordStatus δ id stage.name w.files site.registry with
  | (.ok (), files) => { w with files := files }
  | (.error cause, files) =>
    { w with files := files }.debug
      ("could not record status of " ++ id ++ ": " ++ cause.fault.message)

end World

namespace Instance

variable {δ κ : Type} [Document δ]

def changeNotice (id : Text) (old new : Lifecycle) : Text :=
  "provider " ++ id ++ ": " ++ old.name ++ " -> " ++ new.name

def transition (site : Site δ) (next : Lifecycle) (i : Instance) (w : World κ) :
    Instance × World κ :=
  if i.stage = next then (i, w)
  else
    ({ i with stage := next },
      (w.info (changeNotice i.id i.stage next)).recordStatus site i.id next)

@[simp] theorem stage_transition (site : Site δ) (next : Lifecycle) (i : Instance)
    (w : World κ) : (i.transition site next w).1.stage = next := by
  unfold transition
  split
  · assumption
  · rfl

theorem transition_eq_self (site : Site δ) (i : Instance) (w : World κ) :
    i.transition site i.stage w = (i, w) := by
  simp [transition]

variable [Kernel κ]

def checkAlive (i : Instance) (w : World κ) : Bool × Instance × World κ :=
  match i.isAlive w.kernel with
  | (alive, i, k) => (alive, i, { w with kernel := k })

/-- Makes a probe, and reports why it failed. -/
def checkHealth (s : Settings) (i : Instance) (w : World κ) : Bool × Instance × World κ :=
  match i.probe s w.kernel with
  | (p, i, k) => (p.healthy, i, ⟨k, w.journal.note p.note, w.files⟩)

def checkLive (s : Settings) (i : Instance) (w : World κ) : Bool × Instance × World κ :=
  match i.isLive s w.kernel with
  | (live, note, i, k) => (live, i, ⟨k, w.journal.note note, w.files⟩)

def disconnect (i : Instance) (w : World κ) : Instance × World κ :=
  match i.closeTransport w.journal w.kernel with
  | (i, j, k) => (i, ⟨k, j, w.files⟩)

def readLines (site : Site δ) (i : Instance) (w : World κ) : Instance × World κ :=
  match i.readOutput site.decode w.journal w.kernel with
  | (i, j, k) => (i, ⟨k, j, w.files⟩)

def peer? (i : Instance) : Option Peer :=
  match i.kind with
  | .process => i.pid?.map .process
  | .network => i.baseUrl.map .network

end Instance

end ProviderHost
