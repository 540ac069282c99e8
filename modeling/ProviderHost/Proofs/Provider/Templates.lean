import ProviderHost.Proofs.Text.Tables
import ProviderHost.Provider.Template

/-!
# Definitions from templates

A template is filled in if all the values it needs are given (`instantiate_eq_ok_iff`). The values
of its fields become arguments, in the order of the fields, or variables of the fields' names; a
value under any other name is not used.
-/

namespace ProviderHost

theorem Definition.check_eq_ok_iff {d : Definition} :
    d.check = .ok () ↔ d.name ≠ [] ∧ (d.kind = .process → d.command ≠ []) ∧
      (d.kind = .network → ∃ url, d.url = some url ∧ ∃ u, Url.parse url = .ok u) := by
  unfold check
  by_cases unnamed : d.name = []
  · simp [unnamed]
  cases d.kind with
  | process => by_cases bare : d.command = [] <;> simp [unnamed, bare]
  | network =>
    cases d.url with
    | none => simp [unnamed]
    | some url =>
      by_cases empty : url = []
      · have refused (u : Url) : Url.parse [] ≠ .ok u := by rintro ⟨⟩
        simp [unnamed, empty, refused]
      · cases read : Url.parse url <;> simp [unnamed, empty, read]

/-- The value that is given for a field. An empty one counts as none. -/
def TemplateField.given? (f : TemplateField) (values : Table Text) : Option Text :=
  (values.get? f.name).filter (· ≠ [])

namespace TemplateField

variable (fields : List TemplateField) (values : Table Text)

/-- The arguments that the values of some fields become. -/
def arguments : List Text := (fields.filter (!·.toEnvironment)).filterMap (·.given? values)

/-- The environment entries that the values of some fields become. -/
def settings : List (Text × Text) :=
  (fields.filter (·.toEnvironment)).filterMap fun f => (f.given? values).map (f.name, ·)

variable {fields values}

/-- The settings hold exactly the values that are given for the fields that ask for them. -/
theorem lastValue?_settings {key value : Text} :
    lastValue? key (settings fields values) = some value ↔
      (∃ f ∈ fields, f.toEnvironment ∧ f.name = key) ∧ value ≠ [] ∧
        values.get? key = some value := by
  have member (v : Text) : (key, v) ∈ settings fields values ↔
      (∃ f ∈ fields, f.toEnvironment ∧ f.name = key) ∧ v ≠ [] ∧ values.get? key = some v := by
    simp only [settings, given?, List.mem_filterMap, List.mem_filter, Option.map_eq_some_iff,
      Option.filter_eq_some_iff, Prod.mk.injEq, decide_eq_true_eq]
    constructor
    · rintro ⟨f, ⟨declared, toEnvironment⟩, _, ⟨given, nonempty⟩, rfl, rfl⟩
      exact ⟨⟨f, declared, toEnvironment, rfl⟩, nonempty, given⟩
    · rintro ⟨⟨f, declared, toEnvironment, rfl⟩, nonempty, given⟩
      exact ⟨f, ⟨declared, toEnvironment⟩, v, ⟨given, nonempty⟩, rfl, rfl⟩
  refine ⟨fun last => (member value).mp (mem_of_lastValue? last), fun asked => ?_⟩
  -- All entries of a key have the one value that is given under it.
  obtain ⟨v, last⟩ : ∃ v, lastValue? key (settings fields values) = some v :=
    exists_lastValue? ((member value).mpr asked)
  have given := ((member v).mp (mem_of_lastValue? last)).2.2
  rw [last, ← given, asked.2.2]

end TemplateField

namespace Template

open TemplateField (arguments settings)

def filledIn (fields : List TemplateField) (values : Table Text) (d : Definition) : Definition :=
  { d with
    args := d.args ++ arguments fields values
    env := (settings fields values).foldl (fun t e => t.insert e.1 e.2) d.env }

variable {id : Text} {values : Table Text} {d e : Definition} {f : TemplateField}

theorem fill_of_absent (absent : f.given? values = none) :
    fill id values d f = if f.required then .error (.missingValue id f) else .ok d := by
  unfold fill
  rw [show (values.get? f.name).filter (· ≠ []) = none from absent]

theorem fill_of_given {v : Text} (given : f.given? values = some v) :
    fill id values d f = .ok (filledIn [f] values d) := by
  unfold fill filledIn arguments settings
  rw [show (values.get? f.name).filter (· ≠ []) = some v from given]
  cases toEnvironment : f.toEnvironment <;> simp [toEnvironment, given]

theorem filledIn_cons (fields : List TemplateField) :
    filledIn (f :: fields) values d = filledIn fields values (filledIn [f] values d) := by
  have one : arguments (f :: fields) values =
      arguments [f] values ++ arguments fields values := by
    rw [arguments, ← List.singleton_append, List.filter_append, List.filterMap_append]
    rfl
  have two : settings (f :: fields) values = settings [f] values ++ settings fields values := by
    rw [settings, ← List.singleton_append, List.filter_append, List.filterMap_append]
    rfl
  simp only [filledIn, one, two, List.foldl_append, List.append_assoc]

theorem filledIn_of_absent (absent : f.given? values = none) : filledIn [f] values d = d := by
  unfold filledIn arguments settings
  cases toEnvironment : f.toEnvironment <;> simp [toEnvironment, absent]

theorem get?_env_filledIn (fields : List TemplateField) (key : Text) :
    (filledIn fields values d).env.get? key =
      (lastValue? key (settings fields values) <|> d.env.get? key) :=
  Table.get?_foldl_insert _ _ key

theorem foldlM_fill_eq_ok_iff {fields : List TemplateField} :
    fields.foldlM (fill id values) d = .ok e ↔
      (∀ f ∈ fields, f.required → (f.given? values).isSome) ∧ e = filledIn fields values d := by
  induction fields generalizing d with
  | nil =>
    have same : filledIn [] values d = d := by simp [filledIn, arguments, settings]
    rw [same, List.foldlM_nil]
    exact ⟨fun h => ⟨List.forall_mem_nil _, (Except.ok.inj h).symm⟩, fun h => congrArg _ h.2.symm⟩
  | cons f fields ih =>
    rw [List.foldlM_cons, List.forall_mem_cons, filledIn_cons]
    cases given : f.given? values with
    | none =>
      rw [fill_of_absent given, filledIn_of_absent given]
      by_cases required : f.required
      · simp [required, bind, Except.bind]
      · rw [if_neg required]
        refine Iff.trans ih ?_
        simp [required]
    | some v =>
      rw [fill_of_given given]
      refine Iff.trans ih ?_
      simp

theorem instantiate_eq_ok_iff :
    instantiate id values = .ok e ↔
      ∃ t, builtin.find? (·.id = id) = some t ∧
        (∀ f ∈ t.fields, f.required → (f.given? values).isSome) ∧
        e = filledIn t.fields values t.blank := by
  unfold instantiate find
  cases found : builtin.find? (·.id = id) with
  | none => simp [bind, Except.bind]
  | some t =>
    refine Iff.trans foldlM_fill_eq_ok_iff ?_
    simp

theorem launchable_of_builtin :
    ∀ t ∈ builtin, t.name ≠ [] ∧ t.kind = .process ∧ t.command ≠ [] := by decide

end Template

end ProviderHost
