import ProviderHost.Proofs.CommandLine.Scanning

/-!
# Global flags

Nobody looks at the values of the global flags while a line is scanned, so it does not matter where
they stand: the draft holds the last value of each in the end (`scan_put`). A fault, or a request
for help, ends the reading where it is met.
-/

namespace ProviderHost

/-- The flags that every command takes, before and after its name. -/
inductive GlobalFlag where
  | registry
  | logLevel
  deriving DecidableEq, Repr

namespace GlobalFlag

def name : GlobalFlag → Text
  | registry => "--registry"
  | logLevel => "--log-level"

def put (value : Option Text) (d : Draft) : GlobalFlag → Draft
  | registry => { d with registryPath := value }
  | logLevel => { d with logLevel := value }

def value? (d : Draft) : GlobalFlag → Option Text
  | registry => d.registryPath
  | logLevel => d.logLevel

variable (g : GlobalFlag) (d : Draft) (p : Option Text)

@[simp] theorem value?_put : g.value? (g.put p d) = p := by cases g <;> rfl

@[simp] theorem put_put (q : Option Text) : g.put p (g.put q d) = g.put p d := by cases g <;> rfl

@[simp] theorem put_value? : g.put (g.value? d) d = d := by cases g <;> rfl

@[simp] theorem command_put : (g.put p d).command = d.command := by cases g <;> rfl

theorem plain_put (arg : Text) : (g.put p d).plain arg = (d.plain arg).map (g.put p) := by
  unfold Draft.plain
  split
  · rfl
  · cases g <;> rfl

theorem beforeCommand_put (arg : Text) :
    (g.put p d).beforeCommand arg = (d.beforeCommand arg).map (g.put p) := by
  unfold Draft.beforeCommand
  split
  · rfl
  · split
    · cases g <;> rfl
    · rfl

theorem afterCommand_put (c : Command) (arg : Text) :
    (g.put p d).afterCommand c arg = (d.afterCommand c arg).map (g.put p) := by
  cases c with
  | install =>
    unfold Draft.afterCommand
    dsimp only
    split
    · split
      · cases g <;> rfl
      · rfl
    · exact g.plain_put d p arg
  | call =>
    unfold Draft.afterCommand
    dsimp only
    split
    · cases g <;> rfl
    · exact g.plain_put d p arg
  | _ => exact g.plain_put d p arg

theorem read_name : d.read g.name = .flag fun v => g.put (some v) d := by
  cases g
  · rfl
  · unfold Draft.read
    rw [if_neg (by decide)]
    rfl

/-- Only its own flag looks at the value that is held for a flag, and replaces it. -/
theorem read_put {arg : Text} (other : arg ≠ g.name) :
    (g.put p d).read arg = (d.read arg).map (g.put p) := by
  unfold Draft.read
  rw [g.command_put d p]
  by_cases registry : arg = "--registry"
  · simp only [registry, if_true]
    cases g
    · exact absurd registry other
    · rfl
  by_cases logLevel : arg = "--log-level"
  · simp only [logLevel, if_true]
    cases g
    · rfl
    · exact absurd logLevel other
  simp only [registry, logLevel, if_false]
  split
  · rfl
  · cases d.command with
    | none => exact g.beforeCommand_put d p arg
    | some c => exact g.afterCommand_put d p c arg

/-- The value that is held for a flag in the beginning is held in the end too, unless the flag is
given. -/
theorem scan_put (args : List Text) :
    (g.put p d).scan args =
      (d.scan args).map (g.put (lastValue? g.name (d.flags args) <|> p)) := by
  have other {d : Draft} {arg : Text} {what : Argument} (h : d.read arg = what)
      (noFlag : ∀ keep, what ≠ .flag keep) : arg ≠ g.name := by
    rintro rfl
    exact noFlag _ (h.symm.trans (g.read_name d))
  fun_induction Draft.scan d args generalizing p with
  | case1 d => rfl
  | case2 d arg rest cause h =>
    have read := g.read_put d p (other h (by rintro _ ⟨⟩))
    rw [h] at read
    exact Draft.scan_fault read
  | case3 d arg rest d' h ih =>
    have read := g.read_put d p (other h (by rintro _ ⟨⟩))
    rw [h] at read
    rw [Draft.scan_word read, Draft.flags_word h]
    exact ih p
  | case4 d arg keep h =>
    by_cases same : arg = g.name
    · subst same
      exact Draft.scan_pending (g.read_name _)
    · have read := g.read_put d p same
      rw [h] at read
      exact Draft.scan_pending read
  | case5 d arg keep h v rest ih =>
    rw [Draft.flags_flag h, lastValue?_cons]
    by_cases same : arg = g.name
    · -- The value replaces what was held, so it is the one held from here on.
      subst same
      obtain rfl : keep = fun v => g.put (some v) d :=
        Argument.flag.inj (h.symm.trans (g.read_name d))
      have held := ih (some v)
      rw [put_put] at held
      rw [Draft.scan_flag (g.read_name _), put_put, if_pos rfl]
      refine held.trans ?_
      cases lastValue? g.name ((g.put (some v) d).flags rest) <;> rfl
    · have read := g.read_put d p same
      rw [h] at read
      rw [Draft.scan_flag read, if_neg same]
      exact (ih p).trans (by cases lastValue? g.name ((keep v).flags rest) <;> rfl)

theorem value?_of_scan {d e : Draft} {args : List Text} (scanned : d.scan args = .ok e) :
    g.value? e = (lastValue? g.name (d.flags args) <|> g.value? d) := by
  have whole := g.scan_put d (g.value? d) args
  rw [put_value?, scanned] at whole
  have same : e = _ := Except.ok.inj whole
  rw [same, value?_put]

end GlobalFlag

namespace Draft

def flagsAfter (xs ys : List Text) : List (Text × Text) :=
  match scan {} xs with
  | .ok d => d.flags ys
  | .error _ => []

theorem read_help {help : Text} (member : help ∈ ([("--help" : Text), "-h"])) (d : Draft) :
    d.read help = .fault .helpRequested := by
  have asked : help = "--help" ∨ help = "-h" := by simpa using member
  unfold read
  rcases asked with rfl | rfl
  · rw [if_neg (by decide), if_neg (by decide), if_pos (.inl rfl)]
  · rw [if_neg (by decide), if_neg (by decide), if_pos (.inr rfl)]

end Draft

namespace Request

variable (isObject : Text → Bool)

/-- A change of what the checks of an installation do not look at can be made after them. -/
theorem ofInstall_map (change : Request → Request)
    (apart : ∀ (r : Request) d t v,
      change { r with definition := d, template := t, templateValues := v } =
        { change r with definition := d, template := t, templateValues := v })
    (r : Request) (f : InstallFlags) : (change r).ofInstall f = (r.ofInstall f).map change := by
  change _ = change <$> r.ofInstall f
  unfold ofInstall
  simp only [map_bind, map_pure]
  refine bind_congr fun values => bind_congr fun _ => bind_congr fun kind => ?_
  exact bind_congr fun env => bind_congr fun _ => congrArg pure (apart ..).symm

/-- The request of a draft before the flags of an installation are checked. -/
def begun (c : Command) (level : Option Level) (d : Draft) : Request :=
  { command := c
    registryPath := d.registryPath
    logLevel := level
    providerId := d.words[0]?.getD []
    toolName := d.words[1]?.getD []
    callArguments := d.callArguments }

theorem finish_map (change : Request → Request)
    (apart : ∀ (r : Request) d t v,
      change { r with definition := d, template := t, templateValues := v } =
        { change r with definition := d, template := t, templateValues := v })
    (c : Command) (r : Request) (f : InstallFlags) :
    (if c = .install then (change r).ofInstall f else pure (change r)) =
      change <$> (if c = .install then r.ofInstall f else pure r) := by
  split
  · exact ofInstall_map change apart r f
  · rfl

theorem ofDraft_registry (p : Option Text) (d : Draft) :
    ofDraft isObject (GlobalFlag.put p d .registry) =
      (ofDraft isObject d).map fun r => { r with registryPath := p } := by
  change _ = (fun r : Request => { r with registryPath := p }) <$> ofDraft isObject d
  unfold ofDraft GlobalFlag.put
  cases d.command with
  | none => rfl
  | some c =>
    simp only [map_bind]
    refine bind_congr fun level => bind_congr fun _ => bind_congr fun _ => ?_
    exact finish_map (fun r => { r with registryPath := p }) (fun _ _ _ _ => rfl) c
      (begun c level d) d.install

theorem ofDraft_logLevel {v : Text} {level : Level} (valid : Level.parse? v = some level)
    {d : Draft} (unset : d.logLevel = none) :
    ofDraft isObject (GlobalFlag.put (some v) d .logLevel) =
      (ofDraft isObject d).map fun r => { r with logLevel := some level } := by
  change _ = (fun r : Request => { r with logLevel := some level }) <$> ofDraft isObject d
  have chosen : levelOf (some v) = .ok (some level) := by simp only [levelOf, valid]
  have default : levelOf none = .ok none := rfl
  unfold ofDraft GlobalFlag.put
  cases d.command with
  | none => rfl
  | some c =>
    simp only [map_bind, unset, chosen, default]
    change (checkWords c d.words >>= _) = (checkWords c d.words >>= _)
    refine bind_congr fun _ => bind_congr fun _ => ?_
    exact finish_map (fun r => { r with logLevel := some level }) (fun _ _ _ _ => rfl) c
      (begun c none d) d.install

/-! ### A part of a line and the rest of it -/

theorem parse_append {xs : List Text} {d : Draft} (scanned : Draft.scan {} xs = .ok d)
    (ys : List Text) : parse isObject (xs ++ ys) = d.scan ys >>= ofDraft isObject := by
  have complete : ∀ flag, Draft.scan {} xs ≠ .error (.missingValue flag) := by simp [scanned]
  rw [parse, Draft.scan_append complete, scanned]
  rfl

theorem parse_append_of_fault {xs : List Text} {cause : CommandLineFault}
    (scanned : Draft.scan {} xs = .error cause)
    (complete : ∀ flag, cause ≠ .missingValue flag) (ys : List Text) :
    parse isObject (xs ++ ys) = .error cause := by
  have whole : ∀ flag, Draft.scan {} xs ≠ .error (.missingValue flag) := by
    simpa [scanned] using complete
  rw [parse, Draft.scan_append whole, scanned]
  rfl

/-- A global flag in the middle of a line only puts its value into the draft of the line. -/
theorem parse_global (g : GlobalFlag) {xs : List Text} {d : Draft}
    (scanned : Draft.scan {} xs = .ok d) (v : Text) (ys : List Text) :
    parse isObject (xs ++ g.name :: v :: ys) =
      (d.scan ys).map (g.put (lastValue? g.name (d.flags ys) <|> some v)) >>=
        ofDraft isObject := by
  rw [parse_append isObject scanned, Draft.scan_flag (g.read_name d), g.scan_put]

/-- Global flags change nothing but what they set, wherever they stand in a line, and the leftmost
fault of a line decides what becomes of it. -/
theorem global_flags_are_transparent (xs ys : List Text)
    (complete : ∀ flag, parse isObject xs ≠ .error (.missingValue flag)) :
    (∀ v, parse isObject (xs ++ ("--registry" : Text) :: v :: ys) =
      (parse isObject (xs ++ ys)).map fun r =>
        { r with
          registryPath :=
            some ((lastValue? ("--registry" : Text) (Draft.flagsAfter xs ys)).getD v) }) ∧
    (∀ v level, Level.parse? v = some level →
      (∀ w, (("--log-level" : Text), w) ∉ ({} : Draft).flags (xs ++ ys)) →
      parse isObject (xs ++ ("--log-level" : Text) :: v :: ys) =
        (parse isObject (xs ++ ys)).map fun r => { r with logLevel := some level }) ∧
    (∀ d, Draft.scan {} xs = .ok d → ∀ help ∈ ([("--help" : Text), "-h"]),
      parse isObject (xs ++ help :: ys) = .error .helpRequested) ∧
    (∀ cause, Draft.scan {} xs = .error cause → parse isObject (xs ++ ys) = .error cause) := by
  cases scanned : Draft.scan {} xs with
  | error cause =>
    have waits : ∀ flag, cause ≠ .missingValue flag := by
      rintro flag rfl
      refine complete flag ?_
      rw [parse, scanned]
      rfl
    have stuck (zs : List Text) := parse_append_of_fault isObject scanned waits zs
    refine ⟨fun v => ?_, fun v level _ _ => ?_, fun d other => ?_, ?_⟩
    · rw [stuck, stuck]
      rfl
    · rw [stuck, stuck]
      rfl
    · cases other
    · rintro _ ⟨⟩
      exact stuck ys
  | ok d =>
    refine ⟨fun v => ?_, fun v level valid unset => ?_, ?_, fun cause other => ?_⟩
    · have global := parse_global isObject .registry scanned v ys
      rw [parse_append isObject scanned ys]
      refine global.trans ?_
      have name : ("--registry" : Text) = GlobalFlag.registry.name := rfl
      simp only [Draft.flagsAfter, scanned, name]
      cases d.scan ys with
      | error cause => rfl
      | ok e =>
        refine (ofDraft_registry isObject _ e).trans ?_
        cases lastValue? GlobalFlag.registry.name (d.flags ys) <;> rfl
    · have global := parse_global isObject .logLevel scanned v ys
      rw [Draft.flags_append scanned] at unset
      have before : lastValue? GlobalFlag.logLevel.name (({} : Draft).flags xs) = none :=
        lastValue?_eq_none fun w member => unset w (List.mem_append_left _ member)
      have after : lastValue? GlobalFlag.logLevel.name (d.flags ys) = none :=
        lastValue?_eq_none fun w member => unset w (List.mem_append_right _ member)
      have held := GlobalFlag.logLevel.value?_of_scan scanned
      rw [before] at held
      rw [parse_append isObject scanned ys]
      rw [after] at global
      refine global.trans ?_
      cases read : d.scan ys with
      | error cause => rfl
      | ok e =>
        have kept := GlobalFlag.logLevel.value?_of_scan read
        rw [after, held] at kept
        exact ofDraft_logLevel isObject valid kept
    · rintro _ ⟨⟩ help asked
      rw [parse_append isObject scanned, Draft.scan_fault (Draft.read_help asked d)]
      rfl
    · cases other

/-- Values that look like global flags stand between two ways of setting the registry. -/
theorem flags_among_values :
    let isObject : Text → Bool := fun _ => false
    let xs : List Text := ["install", "--name", "--registry"]
    let ys : List Text := ["--command", "--help", "--registry", "b", "--arg", "--log-level"]
    let r : Request :=
      { command := .install
        registryPath := some "b"
        definition := { name := "--registry", command := "--help", args := ["--log-level"] } }
    (∀ flag, parse isObject xs ≠ .error (.missingValue flag)) ∧
      parse isObject (xs ++ ("--registry" : Text) :: "a" :: ys) = .ok r ∧
      parse isObject (xs ++ ("--log-level" : Text) :: "warn" :: ys) =
        .ok { r with logLevel := some .warn } ∧
      parse isObject (xs ++ ("-h" : Text) :: ys) = .error .helpRequested := by
  intro isObject xs ys r
  have alone : parse isObject xs = .error .noProcessCommand := rfl
  have complete : ∀ flag, parse isObject xs ≠ .error (.missingValue flag) := by simp [alone]
  obtain ⟨registry, logLevel, help, -⟩ := global_flags_are_transparent isObject xs ys complete
  have names : ("--log-level" : Text) ∉ (({} : Draft).flags (xs ++ ys)).map (·.1) := by decide
  have unset : ∀ w, (("--log-level" : Text), w) ∉ ({} : Draft).flags (xs ++ ys) :=
    fun w member => names (List.mem_map_of_mem member)
  exact ⟨complete, (registry "a").trans rfl, (logLevel "warn" .warn rfl unset).trans rfl,
    help _ rfl "-h" (by simp)⟩

end Request

end ProviderHost
