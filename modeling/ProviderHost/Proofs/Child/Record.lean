import ProviderHost.Child

/-!
# A record of what is done to processes

A system that behaves like another one and notes every call that starts, asks after, signals or
collects a process, with its answer and the times at which it began and was done. An operation
does not notice the record, so what holds of the record holds of the calls themselves.
-/

namespace ProviderHost

inductive ProcessCall where
  | start (answer : Except LaunchFault Started)
  | poll (pid : Nat) (answer : Poll)
  | reap (pid : Nat)
  | signalGroup (pid : Nat) (s : Signal) (delivered : Bool)
  | signalProcess (pid : Nat) (s : Signal) (delivered : Bool)

namespace ProcessCall

def target? : ProcessCall → Option Nat
  | .start _ => none
  | .poll pid _ | .reap pid | .signalGroup pid _ _ | .signalProcess pid _ _ => some pid

/-- The signal that a call tries to send. -/
def attempt? : ProcessCall → Option Signal
  | .signalGroup _ s _ | .signalProcess _ s _ => some s
  | _ => none

def delivered? : ProcessCall → Option Signal
  | .signalGroup _ s true | .signalProcess _ s true => some s
  | _ => none

def look? : ProcessCall → Option Poll
  | .poll _ answer => some answer
  | _ => none

/-- Whether a process is gone after a call: it was found dead, or waited for. -/
def ends (pid : Nat) : ProcessCall → Bool
  | .poll p answer => p = pid ∧ answer ≠ .alive
  | .reap p => p = pid
  | _ => false

def collects? (pid : Nat) : ProcessCall → Option Nat
  | .poll p (.dead status) => if p = pid then some status.code else none
  | _ => none

theorem ends_of_collects? {pid code : Nat} {call : ProcessCall}
    (collected : call.collects? pid = some code) : call.ends pid := by
  unfold collects? at collected
  split at collected
  · split at collected
    · rename_i same
      simp [ends, same]
    · cases collected
  · cases collected

end ProcessCall

/-- A call in a record, with the time on the clock before and after it. -/
structure ProcessEntry where
  call : ProcessCall
  began : Nat
  done : Nat

/-- A system with the record of what was done to processes, oldest first. -/
structure Recorded (κ : Type) where
  kernel : κ
  entries : List ProcessEntry := []

namespace Recorded

variable {κ : Type} [Kernel κ]

def note (call : ProcessCall) (k : κ) (r : Recorded κ) : Recorded κ :=
  { kernel := k, entries := r.entries ++ [⟨call, Kernel.now r.kernel, Kernel.now k⟩] }

def pass {α : Type} (r : Recorded κ) (answer : α × κ) : α × Recorded κ :=
  (answer.1, { r with kernel := answer.2 })

instance : Kernel (Recorded κ) where
  now r := Kernel.now r.kernel
  sleep d r := { r with kernel := Kernel.sleep d r.kernel }
  start files launch env r :=
    match Kernel.start files launch env r.kernel with
    | (answer, k) => (answer, r.note (.start answer) k)
  poll pid r :=
    match Kernel.poll pid r.kernel with
    | (answer, k) => (answer, r.note (.poll pid answer) k)
  ends wait r := Kernel.ends wait r.kernel
  reap pid r := r.note (.reap pid) (Kernel.reap pid r.kernel)
  signalGroup pid s r :=
    match Kernel.signalGroup pid s r.kernel with
    | (delivered, k) => (delivered, r.note (.signalGroup pid s delivered) k)
  signalProcess pid s r :=
    match Kernel.signalProcess pid s r.kernel with
    | (delivered, k) => (delivered, r.note (.signalProcess pid s delivered) k)
  read pid s r := r.pass (Kernel.read pid s r.kernel)
  closeInput pid r := { r with kernel := Kernel.closeInput pid r.kernel }
  closeOutputs pid r := { r with kernel := Kernel.closeOutputs pid r.kernel }
  healthStatus u path t r := r.pass (Kernel.healthStatus u path t r.kernel)
  greet peer t r := r.pass (Kernel.greet peer t r.kernel)
  listTools peer t r := r.pass (Kernel.listTools peer t r.kernel)
  callTool peer name args t r := r.pass (Kernel.callTool peer name args t r.kernel)
  dismiss peer t r := r.pass (Kernel.dismiss peer t r.kernel)
  now_le_poll pid r := Kernel.now_le_poll pid r.kernel
  now_lt_sleep d r := Kernel.now_lt_sleep d r.kernel
  now_le_healthStatus u path t r := Kernel.now_le_healthStatus u path t r.kernel

/-- `r'` has what `r` has in its record, and `added` after it. -/
def Extends (r : Recorded κ) (added : List ProcessEntry) (r' : Recorded κ) : Prop :=
  r'.entries = r.entries ++ added

omit [Kernel κ] in
theorem Extends.refl (r : Recorded κ) : r.Extends [] r := (List.append_nil _).symm

omit [Kernel κ] in
theorem Extends.trans {r r' r'' : Recorded κ} {first second : List ProcessEntry}
    (earlier : r.Extends first r') (later : r'.Extends second r'') :
    r.Extends (first ++ second) r'' := by
  unfold Extends at earlier later ⊢
  rw [later, earlier, List.append_assoc]

end Recorded

/-- Each entry satisfies `P`, given those before it; `past` comes before all of them. -/
def EachAfter (P : List ProcessEntry → ProcessEntry → Prop) (past : List ProcessEntry) :
    List ProcessEntry → Prop
  | [] => True
  | e :: entries => P past e ∧ EachAfter P (past ++ [e]) entries

theorem eachAfter_append {P : List ProcessEntry → ProcessEntry → Prop}
    {past first second : List ProcessEntry} :
    EachAfter P past (first ++ second) ↔
      EachAfter P past first ∧ EachAfter P (past ++ first) second := by
  induction first generalizing past with
  | nil => simp [EachAfter]
  | cons e first ih => simp [EachAfter, ih, and_assoc]

theorem eachAfter_of_forall {P : List ProcessEntry → ProcessEntry → Prop}
    {past entries : List ProcessEntry} (each : ∀ e ∈ entries, ∀ past, P past e) :
    EachAfter P past entries := by
  induction entries generalizing past with
  | nil => trivial
  | cons e entries ih =>
    exact ⟨each e List.mem_cons_self past,
      ih fun e' member => each e' (List.mem_cons_of_mem e member)⟩

end ProviderHost
