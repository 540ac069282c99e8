import ProviderHost.Store

/-!
# Calls of the registry

All calls of the registry go the same way: what can be refused without the file is refused, then the
file is read, and only then is the call carried out on the document (`perform_eq`). So it can be
told from a fault how far a call has come.
-/

namespace ProviderHost

/-- A patch that is meant for a provider: it carries no other id. -/
def Patch.Keeps (id : Text) (p : Patch) : Prop := ∀ wanted, p.id = some wanted → wanted = id

def StoreFault.IsLate : StoreFault → Prop
  | .immutableId _ _ | .inUse _ _ | .unreadable _ | .corrupt _ => False
  | _ => True

namespace Store

inductive Call where
  | create (drawn : List Text) (d : Definition)
  | get (id : Text)
  | list
  | update (id : Text) (p : Patch)
  | remove (id : Text)
  | recordStatus (id status : Text)

inductive Reply where
  | definition (d : Definition)
  | listing (entries : List (Except StoreFault Definition))
  | done

variable {δ : Type} [Document δ]

/-- A registry that is there and cannot be opened. -/
def IsSealed (files : Files) (path : Text) : Prop :=
  files.exists? path = true ∧ files.content? path = none

def replying {α : Type} (reply : α → Reply) (answer : Except StoreFault α × Files) :
    Except StoreFault Reply × Files := (answer.1.map reply, answer.2)

namespace Call

variable (δ) in
def perform (inUse : Text → Bool) (files : Files) (path : Text) :
    Call → Except StoreFault Reply × Files
  | create drawn d => replying .definition (Store.create δ drawn d files path)
  | get id => replying .definition (Store.get δ id files path, files)
  | list => replying .listing (Store.list δ files path, files)
  | update id p => replying .definition (Store.update δ inUse id p files path)
  | remove id => replying (fun _ => .done) (Store.remove δ inUse id files path)
  | recordStatus id status =>
    replying (fun _ => .done) (Store.recordStatus δ id status files path)

def refusal? (inUse : Text → Bool) : Call → Option StoreFault
  | create _ d =>
    match d.check with
    | .error cause => some (.invalid cause)
    | .ok () => none
  | update id p => refuseUpdate inUse id p
  | remove id => if inUse id then some (.inUse "remove" id) else none
  | get _ | list | recordStatus _ _ => none

def carryOut (document : δ) (files : Files) (path : Text) : Call → Except StoreFault Reply × Files
  | create drawn d =>
    match chooseId document drawn d with
    | .error cause => (.error cause, files)
    | .ok id =>
      let d := { d with id := id, status := "stopped" }
      saving (Document.put d document) (.definition d) files path
  | get id =>
    match entry? id document with
    | none => (.error (.notFound id), files)
    | some r => (r.map .definition, files)
  | list => (.ok (.listing ((Document.ids document).filterMap fun id => entry? id document)), files)
  | update id p =>
    match entry? id document with
    | none => (.error (.notFound id), files)
    | some (.error cause) => (.error cause, files)
    | some (.ok d) =>
      match (p.apply d).check with
      | .error cause => (.error (.invalid cause), files)
      | .ok () => saving (Document.put (p.apply d) document) (.definition (p.apply d)) files path
  | remove id =>
    match Document.definition? id document with
    | none => (.error (.notFound id), files)
    | some _ => saving (Document.erase id document) .done files path
  | recordStatus id status =>
    match Document.status? id document with
    | none => (.error (.notFound id), files)
    | some recorded =>
      if recorded = status then (.ok .done, files)
      else saving (Document.setStatus id status document) .done files path

end Call

variable {files : Files} {path : Text} {cause : StoreFault} {inUse : Text → Bool} {call : Call}

theorem replying_saving {α : Type} (reply : α → Reply) (document : δ) (result : α) :
    replying reply (saving document result files path) =
      saving document (reply result) files path := by
  unfold saving
  generalize save document files path = outcome
  obtain ⟨answer, files'⟩ := outcome
  cases answer <;> rfl

/-- Every call refuses first, reads the registry next and is carried out last. -/
theorem perform_eq (call : Call) :
    call.perform δ inUse files path =
      match call.refusal? inUse with
      | some cause => (.error cause, files)
      | none =>
        match (load files path : Except StoreFault δ) with
        | .error cause => (.error cause, files)
        | .ok document => call.carryOut document files path := by
  cases call with
  | create drawn d =>
    simp only [Call.perform, Call.refusal?, create]
    cases d.check with
    | error cause => rfl
    | ok _ =>
      cases (load files path : Except StoreFault δ) with
      | error cause => rfl
      | ok document =>
        simp only [Call.carryOut]
        cases chooseId document drawn d with
        | error cause => rfl
        | ok id => exact replying_saving Reply.definition _ _
  | get id =>
    simp only [Call.perform, Call.refusal?, get]
    cases (load files path : Except StoreFault δ) with
    | error cause => rfl
    | ok document =>
      simp only [Call.carryOut, bind, Except.bind]
      cases entry? id document <;> rfl
  | list =>
    simp only [Call.perform, Call.refusal?, list]
    cases (load files path : Except StoreFault δ) <;> rfl
  | update id p =>
    simp only [Call.perform, Call.refusal?, update]
    cases refuseUpdate inUse id p with
    | some cause => rfl
    | none =>
      cases (load files path : Except StoreFault δ) with
      | error cause => rfl
      | ok document =>
        simp only [Call.carryOut]
        cases entry? id document with
        | none => rfl
        | some entry =>
          cases entry with
          | error cause => rfl
          | ok d =>
            dsimp only
            cases (p.apply d).check with
            | error cause => rfl
            | ok _ => exact replying_saving Reply.definition _ _
  | remove id =>
    simp only [Call.perform, Call.refusal?, remove]
    cases inUse id with
    | true => rfl
    | false =>
      simp only [Bool.false_eq_true, if_false]
      cases (load files path : Except StoreFault δ) with
      | error cause => rfl
      | ok document =>
        simp only [Call.carryOut]
        cases Document.definition? id document with
        | none => rfl
        | some _ => exact replying_saving (fun _ => Reply.done) _ ()
  | recordStatus id status =>
    simp only [Call.perform, Call.refusal?, recordStatus]
    cases (load files path : Except StoreFault δ) with
    | error cause => rfl
    | ok document =>
      simp only [Call.carryOut]
      cases Document.status? id document with
      | none => rfl
      | some recorded =>
        dsimp only
        split
        · rfl
        · exact replying_saving (fun _ => Reply.done) _ ()

/-! ### How far a call has come -/

theorem load_eq_error (failed : (load files path : Except StoreFault δ) = .error cause) :
    cause = .unreadable path ∧ IsSealed files path ∨ cause = .corrupt path := by
  unfold load at failed
  split at failed
  · rename_i there
    split at failed
    · rename_i closed
      cases failed
      exact .inl ⟨rfl, there, closed⟩
    · split at failed <;> cases failed
      exact .inr rfl
  · cases failed

theorem load_of_isSealed (shut : IsSealed files path) :
    (load files path : Except StoreFault δ) = .error (.unreadable path) := by
  rw [load, if_pos shut.1, shut.2]

theorem entry?_late {id : Text} {document : δ}
    (failed : entry? id document = some (.error cause)) : cause.IsLate := by
  unfold entry? at failed
  split at failed <;> cases failed
  trivial

theorem makeDirectory_late (failed : makeDirectory files path = .error cause) : cause.IsLate := by
  unfold makeDirectory at failed
  split at failed
  · cases failed
  · split at failed <;> cases failed
    trivial

theorem save_late {document : δ} (failed : (save document files path).1 = .error cause) :
    cause.IsLate := by
  unfold save at failed
  split at failed
  · rename_i made
    cases failed
    exact makeDirectory_late made
  · split at failed
    · cases failed
      trivial
    · split at failed <;> cases failed
      trivial

theorem saving_late {α : Type} {document : δ} {result : α}
    (failed : (saving document result files path).1 = .error cause) : cause.IsLate := by
  unfold saving at failed
  generalize saved : save document files path = outcome at failed
  obtain ⟨answer, files'⟩ := outcome
  cases answer with
  | ok => cases failed
  | error cause' =>
    cases failed
    exact save_late (congrArg Prod.fst saved)

theorem chooseId_late {document : δ} {drawn : List Text} {d : Definition}
    (failed : chooseId document drawn d = .error cause) : cause.IsLate := by
  unfold chooseId at failed
  split at failed
  · split at failed <;> cases failed
    trivial
  · split at failed <;> cases failed
    trivial

theorem carryOut_late {document : δ}
    (failed : (call.carryOut document files path).1 = .error cause) : cause.IsLate := by
  cases call with
  | create drawn d =>
    unfold Call.carryOut at failed
    dsimp only at failed
    split at failed
    · rename_i chosen
      cases failed
      exact chooseId_late chosen
    · exact saving_late failed
  | get id =>
    unfold Call.carryOut at failed
    dsimp only at failed
    split at failed
    · cases failed
      trivial
    · rename_i entry found
      cases entry with
      | ok d => cases failed
      | error cause =>
        cases failed
        exact entry?_late found
  | list => cases failed
  | update id p =>
    unfold Call.carryOut at failed
    dsimp only at failed
    split at failed
    · cases failed
      trivial
    · rename_i found
      cases failed
      exact entry?_late found
    · split at failed
      · cases failed
        trivial
      · exact saving_late failed
  | remove id =>
    unfold Call.carryOut at failed
    dsimp only at failed
    split at failed
    · cases failed
      trivial
    · exact saving_late failed
  | recordStatus id status =>
    unfold Call.carryOut at failed
    dsimp only at failed
    split at failed
    · cases failed
      trivial
    · split at failed
      · cases failed
      · exact saving_late failed

/-- A call that fails was refused, or the registry could not be read, or something has come up
later. -/
theorem perform_error (failed : (call.perform δ inUse files path).1 = .error cause) :
    call.refusal? inUse = some cause ∨
      call.refusal? inUse = none ∧
        ((load files path : Except StoreFault δ) = .error cause ∨ cause.IsLate) := by
  rw [perform_eq] at failed
  cases refused : call.refusal? inUse with
  | some cause' =>
    rw [refused] at failed
    cases failed
    exact .inl rfl
  | none =>
    rw [refused] at failed
    dsimp only at failed
    refine .inr ⟨rfl, ?_⟩
    cases loaded : (load files path : Except StoreFault δ) with
    | error cause' =>
      rw [loaded] at failed
      cases failed
      exact .inl rfl
    | ok document =>
      rw [loaded] at failed
      exact .inr (carryOut_late failed)

end Store

end ProviderHost
