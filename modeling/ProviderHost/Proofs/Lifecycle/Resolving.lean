import ProviderHost.Proofs.Lifecycle.Reports
import ProviderHost.Proofs.SearchPath

/-!
# What a launch is resolved to

A command that is found is run as it stands. Another may be replaced, by the first fallback that
names it and by no other. `Resolution` says when each of the outcomes is due, and what is reported
with it; one of them always is (`exists_resolution`), and it is the one that comes about
(`Resolution.comes_about`).
-/

namespace ProviderHost

namespace Launch

def IsFirstFor (command : Text) (fallbacks : List Fallback) (f : Fallback) : Prop :=
  ∃ before after, fallbacks = before ++ f :: after ∧ f.primary = command ∧
    ∀ earlier ∈ before, earlier.primary ≠ command

/-- The arguments that a replacing command still gets: all of them, without one leading `run` if the
fallback takes it away. -/
def Keeps (change : ArgumentChange) (args kept : List Text) : Prop :=
  change = .replaceLeadingRun ∧ args = Text.ofString "run" :: kept ∨
    ¬(change = .replaceLeadingRun ∧ args.head? = some (Text.ofString "run")) ∧ kept = args

/-- Says that a command was replaced, and by what command line. -/
def substitution (command replacement : Text) (args : List Text) : Text :=
  "'" ++ command ++ "' not found on PATH, running '" ++
    (replacement ++ args.flatMap (Text.ofString " " ++ ·)) ++ "' instead"

/-- What a command and its arguments are resolved to, and what is reported with it. -/
inductive Resolution (find : Text → Option Text) (fallbacks : List Fallback) (command : Text)
    (args : List Text) : Except LaunchFault Launch → List Report → Prop where
  | found {executable : Text} (here : find command = some executable) :
      Resolution find fallbacks command args
        (.ok { executable := executable, args := args, note := [] }) []
  | replaced {f : Fallback} {executable : Text} {kept : List Text} (named : command ≠ [])
      (absent : find command = none) (first : IsFirstFor command fallbacks f)
      (there : find f.replacement = some executable) (keeps : Keeps f.change args kept) :
      Resolution find fallbacks command args
        (.ok
          { executable := executable
            args := Text.ofString "-y" :: kept
            note := substitution command f.replacement (Text.ofString "-y" :: kept) })
        [(.warn, substitution command f.replacement (Text.ofString "-y" :: kept))]
  | unnamed (empty : command = []) :
      Resolution find fallbacks command args (.error .noCommand) []
  | lost (named : command ≠ []) (absent : find command = none)
      (unreplaced : ∀ f, IsFirstFor command fallbacks f → find f.replacement = none) :
      Resolution find fallbacks command args (.error (.notFound command)) []

variable {find : Text → Option Text} {fallbacks : List Fallback} {command : Text} {args : List Text}

theorem find?_primary_eq_some_iff {f : Fallback} :
    (fallbacks.find? fun f => f.primary = command) = some f ↔ IsFirstFor command fallbacks f := by
  rw [List.find?_eq_some_iff_append]
  constructor
  · rintro ⟨named, before, after, whole, others⟩
    exact ⟨before, after, whole, by simpa using named, by simpa using others⟩
  · rintro ⟨before, after, whole, named, others⟩
    exact ⟨by simpa using named, before, after, whole, by simpa using others⟩

theorem adaptArgs_of_keeps {change : ArgumentChange} {kept : List Text}
    (keeps : Keeps change args kept) : adaptArgs change args = Text.ofString "-y" :: kept := by
  rcases keeps with ⟨rfl, rfl⟩ | ⟨stays, rfl⟩
  · rw [adaptArgs, if_pos rfl]
  · cases change with
    | prependYes => rfl
    | replaceLeadingRun =>
      cases kept with
      | nil => rfl
      | cons first rest =>
        have other : first ≠ Text.ofString "run" := fun run => stays ⟨rfl, congrArg some run⟩
        rw [adaptArgs, if_neg other]

theorem exists_keeps (change : ArgumentChange) (args : List Text) : ∃ kept, Keeps change args kept := by
  by_cases taken : change = .replaceLeadingRun ∧ args.head? = some (Text.ofString "run")
  · obtain ⟨takes, leading⟩ := taken
    obtain ⟨rest, whole⟩ := List.head?_eq_some_iff.mp leading
    exact ⟨rest, .inl ⟨takes, whole⟩⟩
  · exact ⟨args, .inr ⟨taken, rfl⟩⟩

theorem commandLine_eq (command : Text) (args : List Text) :
    commandLine command args = command ++ args.flatMap (Text.ofString " " ++ ·) := by
  unfold commandLine
  induction args generalizing command with
  | nil => exact (List.append_nil _).symm
  | cons arg args ih =>
    rw [Text.join, ih, List.flatMap_cons]
    · simp [Text.ofString]
    · exact List.cons_ne_nil _ _

theorem substitution_ne_nil (command replacement : Text) (args : List Text) :
    substitution command replacement args ≠ [] := by
  simp [substitution, Text.ofString]

theorem ofFallback_eq {f : Fallback} {kept : List Text} (executable : Text)
    (keeps : Keeps f.change args kept) :
    ofFallback f executable args =
      { executable := executable
        args := Text.ofString "-y" :: kept
        note := substitution f.primary f.replacement (Text.ofString "-y" :: kept) } := by
  unfold ofFallback substitution
  dsimp only
  rw [adaptArgs_of_keeps keeps, commandLine_eq]

theorem report_ok (launch : Launch) (j : Journal) :
    report (.ok launch) j = if launch.note = [] then j else j.warn launch.note := rfl

theorem exists_resolution (find : Text → Option Text) (fallbacks : List Fallback) (command : Text)
    (args : List Text) : ∃ result reports, Resolution find fallbacks command args result reports := by
  by_cases empty : command = []
  · exact ⟨_, _, .unnamed empty⟩
  cases here : find command with
  | some executable => exact ⟨_, _, .found here⟩
  | none =>
    by_cases replaceable : ∃ f executable,
        IsFirstFor command fallbacks f ∧ find f.replacement = some executable
    · obtain ⟨f, executable, first, there⟩ := replaceable
      obtain ⟨kept, keeps⟩ := exists_keeps f.change args
      exact ⟨_, _, .replaced empty here first there keeps⟩
    · refine ⟨_, _, .lost empty here fun f first => ?_⟩
      exact Option.eq_none_iff_forall_ne_some.mpr fun executable there =>
        replaceable ⟨f, executable, first, there⟩

theorem Resolution.comes_about {result : Except LaunchFault Launch} {reports : List Report}
    (nameless : find [] = none) (due : Resolution find fallbacks command args result reports) :
    resolve find fallbacks command args = result ∧ ∀ j, report result j = j.tell reports := by
  unfold resolve
  cases due with
  | found here =>
    have named : command ≠ [] := by
      rintro rfl
      cases nameless.symm.trans here
    rw [if_neg named, here]
    exact ⟨rfl, fun j => (report_ok ..).trans (if_pos rfl)⟩
  | @replaced f executable kept named absent first there keeps =>
    have primary : f.primary = command := by
      obtain ⟨-, -, -, primary, -⟩ := first
      exact primary
    rw [if_neg named, absent]
    dsimp only
    rw [find?_primary_eq_some_iff.mpr first]
    dsimp only
    rw [there]
    dsimp only
    rw [ofFallback_eq executable keeps, primary]
    exact ⟨rfl, fun j => (report_ok ..).trans (if_neg (substitution_ne_nil _ _ _))⟩
  | unnamed empty =>
    rw [if_pos empty]
    exact ⟨rfl, fun j => rfl⟩
  | lost named absent unreplaced =>
    rw [if_neg named, absent]
    dsimp only
    refine ⟨?_, fun j => rfl⟩
    cases listed : fallbacks.find? fun f => f.primary = command with
    | none => rfl
    | some f =>
      -- A later fallback for the command is not tried when the first one has nothing to run.
      dsimp only
      rw [unreplaced f (find?_primary_eq_some_iff.mp listed)]

/-- Of two fallbacks for a command the first counts, and it takes `run` away once. -/
example :
    let find (c : Text) : Option Text := if c = "npx" then some (Text.ofString "/bin/npx") else none
    resolve find [⟨"uv", "npx", .replaceLeadingRun⟩, ⟨"uv", "npx", .prependYes⟩] "uv"
        (["run", "run", "x"].map Text.ofString) =
      .ok
        { executable := "/bin/npx"
          args := ["-y", "run", "x"].map Text.ofString
          note := "'uv' not found on PATH, running 'npx -y run x' instead" } := by
  rfl

end Launch

namespace Instance

variable {δ κ : Type}

theorem kernel_connectProcess (s : Settings) (d : Definition) (c : Child) (i : Instance)
    (w : World κ) : (i.connectProcess s d c w).2.2.kernel = w.kernel := by
  unfold connectProcess
  dsimp only
  split <;> rfl

variable [Kernel κ]

theorem kernel_launchProcess {site : Site δ} {d : Definition} {w : World κ} {launch : Launch}
    (resolved : Launch.resolve (SearchPath.find? w.files site.searchPath) site.settings.fallbacks
      d.command d.args = .ok launch) (i : Instance) :
    (i.launchProcess site d w).2.2.kernel =
      (Child.spawn w.files launch (Environment.merge site.environment d.env) w.kernel).2 := by
  unfold launchProcess
  rw [resolved]
  dsimp only
  split
  · rename_i spawned
    rw [spawned]
  · rename_i spawned
    rw [spawned]
    exact kernel_connectProcess ..

theorem launchProcess_of_error {site : Site δ} {d : Definition} {w : World κ} {cause : LaunchFault}
    (resolved : Launch.resolve (SearchPath.find? w.files site.searchPath) site.settings.fallbacks
      d.command d.args = .error cause) (i : Instance) :
    i.launchProcess site d w = (.error (.unlaunchable cause), i, w) := by
  unfold launchProcess
  rw [resolved]
  rfl

end Instance

/-- A command that is found is run as it stands. One that is not is replaced by the first fallback
for it, if that is found, and the replacement is reported; no argument is lost but one leading `run`
of a fallback that takes it away. In every other case nothing is run. -/
theorem commands_are_replaced_when_missing {δ κ : Type} [Kernel κ] :
    (∀ files path fallbacks command args,
      (∃ result reports, Launch.Resolution (SearchPath.find? files path) fallbacks command args
        result reports) ∧
      ∀ result reports, Launch.Resolution (SearchPath.find? files path) fallbacks command args
          result reports →
        Launch.resolve (SearchPath.find? files path) fallbacks command args = result ∧
          ∀ j, Launch.report result j = j.tell reports) ∧
    (∀ command replacement args, Launch.substitution command replacement args ≠ []) ∧
    LaunchFault.noCommand.fault.code = "missing_command" ∧
    (∀ command, (LaunchFault.notFound command).fault.code = "executable_not_found") ∧
    ∀ (site : Site δ) (d : Definition) (i : Instance) (w : World κ),
      (∀ launch, Launch.resolve (SearchPath.find? w.files site.searchPath) site.settings.fallbacks
          d.command d.args = .ok launch →
        (i.launchProcess site d w).2.2.kernel =
          (Child.spawn w.files launch (Environment.merge site.environment d.env) w.kernel).2) ∧
      ∀ cause, Launch.resolve (SearchPath.find? w.files site.searchPath) site.settings.fallbacks
          d.command d.args = .error cause →
        i.launchProcess site d w = (.error (.unlaunchable cause), i, w) := by
  refine ⟨fun files path fallbacks command args => ⟨Launch.exists_resolution .., ?_⟩,
    Launch.substitution_ne_nil, rfl, fun _ => rfl, fun site d i w => ⟨?_, ?_⟩⟩
  · have nameless : SearchPath.find? files path [] = none :=
      (SearchPath.find?_eq_none_iff path).mpr (.inl rfl)
    exact fun result reports due => due.comes_about nameless
  · exact fun launch resolved => i.kernel_launchProcess resolved
  · exact fun cause resolved => i.launchProcess_of_error resolved

end ProviderHost
