import ProviderHost.Files
import ProviderHost.Journal
import ProviderHost.Provider

/-!
# The registry of providers

The definitions are kept in one file, which every operation reads anew and every change
replaces as a whole. An operation first refuses what can be refused without the file: a
malformed definition, a change of id, a change to a provider that is in use. How a document is
written as text is not decided here; `Document` says what the registry needs of it.
-/

namespace ProviderHost

inductive EntryFault where
  | notAnObject
  | unknownKind (name : Text)
  | malformed (reason : Text)
  deriving DecidableEq, Repr

def EntryFault.message (id : Text) : EntryFault → Text
  | notAnObject => "Provider entry " ++ id ++ " is not an object"
  | unknownKind name => "Provider " ++ id ++ " has unknown kind '" ++ name ++ "'"
  | malformed reason => "Provider " ++ id ++ " is malformed: " ++ reason

class Document (δ : Type) where
  blank : δ
  /-- Reads a document; none if the text is not one. -/
  read? : Text → Option δ
  print : δ → Text
  /-- The ids of the providers, in the order in which they are listed. -/
  ids : δ → List Text
  /-- The definition of a provider, or what is wrong with it. -/
  definition? : Text → δ → Option (Except EntryFault Definition)
  status? : Text → δ → Option Text
  put : Definition → δ → δ
  erase : Text → δ → δ
  setStatus : Text → Text → δ → δ

/-- Why the registry refuses or fails. -/
inductive StoreFault where
  | invalid (cause : DefinitionFault)
  | immutableId (id wanted : Text)
  | inUse (action id : Text)
  | unreadable (path : Text)
  | corrupt (path : Text)
  | malformed (id : Text) (cause : EntryFault)
  | notFound (id : Text)
  | duplicate (id : Text)
  | noFreeId
  | noDirectory (path : Text)
  | unwritable (path : Text)
  | irreplaceable (path : Text)
  deriving DecidableEq, Repr

namespace StoreFault

def ofFile (message code : Text) : Fault :=
  { category := .configuration, message := message, code := code }

def fault : StoreFault → Fault
  | invalid cause => cause.fault
  | immutableId id wanted =>
    ofFile ("Provider id cannot be changed (" ++ id ++ " -> " ++ wanted ++ ")") "immutable_id"
  | inUse action id =>
    { category := .configuration
      message := "Cannot " ++ action ++ " provider " ++ id ++ " while it is running"
      code := "provider_in_use"
      hint := "Stop the provider first." }
  | unreadable path => ofFile ("Unable to open provider registry: " ++ path) "registry_read_failed"
  | corrupt path =>
    { category := .configuration
      message := "Provider registry is not valid JSON: " ++ path
      code := "registry_corrupt"
      hint := "Fix or delete the file to start with an empty registry." }
  | malformed id cause => ofFile (cause.message id) "invalid_definition"
  | notFound id => ofFile ("Provider not found: " ++ id) "provider_not_found"
  | duplicate id => ofFile ("Provider already exists: " ++ id) "duplicate_provider"
  | noFreeId =>
    { category := .internal
      message := "Unable to allocate a provider id"
      code := "provider_id_generation_failed" }
  | noDirectory path =>
    ofFile ("Unable to create registry directory: " ++ path) "registry_write_failed"
  | unwritable path =>
    ofFile ("Unable to open registry for writing: " ++ path) "registry_write_failed"
  | irreplaceable path =>
    ofFile ("Unable to replace provider registry: " ++ path) "registry_write_failed"

end StoreFault

namespace Store

/-- The directory part of a path; none for a bare name. -/
def directory? (path : Text) : Option Text :=
  match Text.cutLast? Byte.slash path with
  | none => none
  | some (front, _) =>
    match Text.dropEnd (· == Byte.slash) front with
    | [] => some "/"
    | directory => some directory

/-- The file that is written before it takes the place of the registry. -/
def temporary (path : Text) : Text := path ++ ".tmp"

variable {δ : Type} [Document δ]

/-- Reads the registry. One that does not exist is empty. -/
def load (files : Files) (path : Text) : Except StoreFault δ :=
  if files.exists? path then
    match files.content? path with
    | none => .error (.unreadable path)
    | some content =>
      match Document.read? content with
      | none => .error (.corrupt path)
      | some document => .ok document
  else .ok Document.blank

def entry? (id : Text) (document : δ) : Option (Except StoreFault Definition) :=
  match Document.definition? id document with
  | none => none
  | some (.error cause) => some (.error (.malformed id cause))
  | some (.ok d) => some (.ok { d with id := id })

def makeDirectory (files : Files) (path : Text) : Except StoreFault Files :=
  match directory? path with
  | none => .ok files
  | some directory =>
    match files.makeDirectories directory with
    | none => .error (.noDirectory directory)
    | some files => .ok files

/-- Replaces the registry by a document. The files are as the attempt leaves them. -/
def save (document : δ) (files : Files) (path : Text) : Except StoreFault Unit × Files :=
  match makeDirectory files path with
  | .error cause => (.error cause, files)
  | .ok files =>
    match files.write (temporary path) (Document.print document) with
    | none => (.error (.unwritable (temporary path)), files)
    | some written =>
      match written.rename (temporary path) path with
      | none => (.error (.irreplaceable path), files)
      | some replaced => (.ok (), replaced)

/-- The id of a new definition: its own, or the first drawn id that is free. -/
def chooseId (document : δ) (drawn : List Text) (d : Definition) : Except StoreFault Text :=
  if d.id = [] then
    match drawn.find? fun id => (Document.definition? id document).isNone with
    | some id => .ok id
    | none => .error .noFreeId
  else if (Document.definition? d.id document).isSome then .error (.duplicate d.id)
  else .ok d.id

def saving {α : Type} (document : δ) (result : α) (files : Files) (path : Text) :
    Except StoreFault α × Files :=
  match save document files path with
  | (.ok (), files) => (.ok result, files)
  | (.error cause, files) => (.error cause, files)

variable (δ)

/-- Adds a provider; `drawn` are the ids to try when the definition has none. -/
def create (drawn : List Text) (d : Definition) (files : Files) (path : Text) :
    Except StoreFault Definition × Files :=
  match d.check with
  | .error cause => (.error (.invalid cause), files)
  | .ok () =>
    match (load files path : Except StoreFault δ) with
    | .error cause => (.error cause, files)
    | .ok document =>
      match chooseId document drawn d with
      | .error cause => (.error cause, files)
      | .ok id =>
        let d := { d with id := id, status := "stopped" }
        saving (Document.put d document) d files path

def get (id : Text) (files : Files) (path : Text) : Except StoreFault Definition := do
  let document ← (load files path : Except StoreFault δ)
  match entry? id document with
  | none => throw (.notFound id)
  | some r => r

variable {δ} in
theorem id_of_get {id : Text} {files : Files} {path : Text} {d : Definition}
    (found : get δ id files path = .ok d) : d.id = id := by
  unfold get at found
  cases loaded : (load files path : Except StoreFault δ) with
  | error cause =>
    rw [loaded] at found
    cases found
  | ok document =>
    rw [loaded] at found
    dsimp only [bind, Except.bind] at found
    unfold entry? at found
    cases defined : Document.definition? id document with
    | none =>
      rw [defined] at found
      cases found
    | some entry =>
      rw [defined] at found
      cases entry with
      | error cause => cases found
      | ok d =>
        cases found
        rfl

def list (files : Files) (path : Text) :
    Except StoreFault (List (Except StoreFault Definition)) := do
  let document ← (load files path : Except StoreFault δ)
  return (Document.ids document).filterMap fun id => entry? id document

def refuseUpdate (inUse : Text → Bool) (id : Text) (p : Patch) : Option StoreFault :=
  match p.id.filter (· ≠ id) with
  | some wanted => some (.immutableId id wanted)
  | none =>
    if p.changesLaunch ∧ inUse id then some (.inUse "change the launch settings of" id) else none

def update (inUse : Text → Bool) (id : Text) (p : Patch) (files : Files) (path : Text) :
    Except StoreFault Definition × Files :=
  match refuseUpdate inUse id p with
  | some cause => (.error cause, files)
  | none =>
    match (load files path : Except StoreFault δ) with
    | .error cause => (.error cause, files)
    | .ok document =>
      match entry? id document with
      | none => (.error (.notFound id), files)
      | some (.error cause) => (.error cause, files)
      | some (.ok d) =>
        let d := p.apply d
        match d.check with
        | .error cause => (.error (.invalid cause), files)
        | .ok () => saving (Document.put d document) d files path

def remove (inUse : Text → Bool) (id : Text) (files : Files) (path : Text) :
    Except StoreFault Unit × Files :=
  if inUse id then (.error (.inUse "remove" id), files)
  else
    match (load files path : Except StoreFault δ) with
    | .error cause => (.error cause, files)
    | .ok document =>
      match Document.definition? id document with
      | none => (.error (.notFound id), files)
      | some _ => saving (Document.erase id document) () files path

def recordStatus (id status : Text) (files : Files) (path : Text) :
    Except StoreFault Unit × Files :=
  match (load files path : Except StoreFault δ) with
  | .error cause => (.error cause, files)
  | .ok document =>
    match Document.status? id document with
    | none => (.error (.notFound id), files)
    | some recorded =>
      if recorded = status then (.ok (), files)
      else saving (Document.setStatus id status document) () files path

end Store

end ProviderHost
