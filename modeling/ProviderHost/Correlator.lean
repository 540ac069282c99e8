import ProviderHost.Journal
import ProviderHost.Text.Decimal

/-!
# Requests that wait for their replies

A correlator holds one entry for each request that somebody waits for. An entry is completed at
most once, by a reply, by a failure or by the end of the connection, and it is collected by its
waiter. When a waiter wakes is up to the clock: its request was completed or its deadline
passed. So a wait is two steps, `admits` when it begins and `collect` when it ends.

`slot?_complete`, `slot?_close`, `slot?_collect` and `slot?_register` say what each step
does to the entry of any id.
-/

namespace ProviderHost

/-- How a request was completed: with a reply or with a failure. -/
abbrev Outcome (π : Type) := Except Fault π

/-- Why a request gets no reply. -/
inductive RequestFault where
  /-- The failure with which the request was completed, or the reason of the closing. -/
  | given (cause : Fault)
  | idTaken (id : Int)
  | notPending (id : Int)
  | timedOut (id : Int)
  deriving DecidableEq, Repr

def RequestFault.fault : RequestFault → Fault
  | .given cause => cause
  | .idTaken id =>
    { category := .internal
      message := "Request id collision: " ++ Text.ofInt id
      code := "request_id_collision" }
  | .notPending id =>
    { category := .internal
      message := "No pending request with id " ++ Text.ofInt id
      code := "request_not_pending" }
  | .timedOut id =>
    { category := .requestTimeout
      message := "Request " ++ Text.ofInt id ++ " timed out"
      code := "request_timeout" }

/-- The requests that are waited for. An entry without an outcome is not completed yet. The last id
is a signed word of 64 bits in a running host and unbounded here, so that what is said of ids holds
there of fewer than 2^63 requests. -/
structure Correlator (π : Type) where
  lastId : Int := 0
  pending : List (Int × Option (Outcome π)) := []
  closed : Option Fault := none

namespace Correlator

variable {π : Type}

def slot? (id : Int) (c : Correlator π) : Option (Option (Outcome π)) :=
  (c.pending.find? fun e => e.1 = id).map (·.2)

def nextId (c : Correlator π) : Int × Correlator π :=
  (c.lastId + 1, { c with lastId := c.lastId + 1 })

def register (id : Int) (c : Correlator π) : Except RequestFault Unit × Correlator π :=
  match c.closed with
  | some reason => (.error (.given reason), c)
  | none =>
    match c.slot? id with
    | some _ => (.error (.idTaken id), c)
    | none => (.ok (), { c with pending := c.pending ++ [(id, none)] })

def reportRegistration (result : Except RequestFault Unit) (j : Journal) : Journal :=
  match result with
  | .error (.idTaken id) =>
    j.error ("RequestCorrelator: id " ++ Text.ofInt id ++ " is already pending")
  | _ => j

def update (f : Int → Option (Outcome π) → Option (Outcome π)) (c : Correlator π) :
    Correlator π :=
  { c with pending := c.pending.map fun e => (e.1, f e.1 e.2) }

/-- Completes a request; answers whether this call is the one that completed it. -/
def complete (id : Int) (outcome : Outcome π) (c : Correlator π) : Bool × Correlator π :=
  (match c.slot? id with
    | some none => true
    | _ => false,
   c.update fun i o => if i = id then o <|> some outcome else o)

def resolve (id : Int) (reply : π) (c : Correlator π) : Bool × Correlator π :=
  c.complete id (.ok reply)

def fail (id : Int) (cause : Fault) (c : Correlator π) : Bool × Correlator π :=
  c.complete id (.error cause)

def admits (id : Int) (c : Correlator π) : Bool := (c.slot? id).isSome

/-- The end of a wait: the outcome of the request, or none if it has none. The entry goes. -/
def collect (id : Int) (c : Correlator π) : Except RequestFault π × Correlator π :=
  (match c.slot? id with
    | none => .error (.notPending id)
    | some none => .error (.timedOut id)
    | some (some (.ok reply)) => .ok reply
    | some (some (.error cause)) => .error (.given cause),
   { c with pending := c.pending.filter fun e => e.1 ≠ id })

def wait (id : Int) (c : Correlator π) : Except RequestFault π × Correlator π :=
  if c.admits id then c.collect id else (.error (.notPending id), c)

/-- Completes every request with a failure and refuses new ones. -/
def close (reason : Fault) (c : Correlator π) : Correlator π :=
  { c.update fun _ o => o <|> some (.error reason) with
    closed := c.closed <|> some reason }

def pendingCount (c : Correlator π) : Nat := c.pending.length

/-! ### What a step does to the entry of an id -/

theorem slot?_update (i : Int) (f : Int → Option (Outcome π) → Option (Outcome π))
    (c : Correlator π) : (c.update f).slot? i = (c.slot? i).map (f i) := by
  unfold update slot?
  simp only
  induction c.pending with
  | nil => rfl
  | cons e rest ih =>
    by_cases h : e.1 = i
    · simp [h]
    · simpa [h] using ih

theorem slot?_complete (i id : Int) (outcome : Outcome π) (c : Correlator π) :
    (c.complete id outcome).2.slot? i =
      (c.slot? i).map fun o => if i = id then o <|> some outcome else o :=
  slot?_update i _ c

theorem slot?_close (i : Int) (reason : Fault) (c : Correlator π) :
    (c.close reason).slot? i = (c.slot? i).map fun o => o <|> some (.error reason) :=
  slot?_update i (fun _ o => o <|> some (Except.error reason : Outcome π)) c

theorem slot?_collect (i id : Int) (c : Correlator π) :
    (c.collect id).2.slot? i = if i = id then none else c.slot? i := by
  unfold collect slot?
  simp only
  by_cases h : i = id
  · subst h
    simp
  · simp only [h, if_false]
    congr 1
    induction c.pending with
    | nil => rfl
    | cons e rest ih =>
      by_cases he : e.1 = id
      · have : ¬ e.1 = i := fun h' => h (h'.symm.trans he)
        have h' : ¬ id = i := fun h' => h h'.symm
        simpa [he, h'] using ih
      · by_cases hei : e.1 = i
        · simp [hei, h]
        · simp only [List.filter_cons, he, ne_eq, not_false_eq_true, decide_true, if_true,
            List.find?_cons, hei, decide_false]
          exact ih

theorem slot?_register (i id : Int) (c : Correlator π) :
    (c.register id).2.slot? i =
      if i = id ∧ c.closed = none ∧ c.slot? id = none then some none else c.slot? i := by
  unfold register
  split
  · rename_i h
    simp [h]
  · rename_i hc
    split
    · rename_i h
      simp [h]
    · rename_i h
      simp only [hc, h, and_true]
      unfold slot? at h ⊢
      simp only [List.find?_append]
      by_cases hi : i = id
      · subst hi
        simp only [Option.map_eq_none_iff] at h
        simp [h]
      · have : ¬ id = i := fun h' => hi h'.symm
        simp [hi, this]

end Correlator

end ProviderHost
