import ProviderHost.Settings

/-!
# What the environment makes of the settings

The settings are read one after the other and the first fault ends the reading. So there are two
cases: no setting is at fault, and the settings are those that the environment means
(`load_of_accepted`), or one is the first that is, and its fault is the answer (`load_of_fault`).
What is accepted fits the field that it is kept in, so that narrowing loses nothing.
-/

namespace ProviderHost

open Settings (given? numeric)

namespace NumericSetting

/-- The environment gives no value, or digits of one within the bounds. -/
def IsMet (env : Lookup) (n : NumericSetting) : Prop :=
  ∀ raw, given? env n.variableName = some raw →
    ∃ v, Text.toNat? raw = some v ∧ n.least ≤ v ∧ v ≤ n.greatest

/-- What is wrong with the value that the environment gives. -/
inductive Faulty (env : Lookup) (n : NumericSetting) : SettingsFault → Prop
  | notANumber {raw : Text} (given : given? env n.variableName = some raw)
    (unread : ∀ v, Text.toNat? raw = some v → Text.wordCount 64 ≤ v) :
    Faulty env n (.notANumber n.variableName raw)
  | outOfBounds {raw : Text} {v : Nat} (given : given? env n.variableName = some raw)
    (read : Text.toNat? raw = some v) (fits : v < Text.wordCount 64)
    (beyond : v < n.least ∨ n.greatest < v) :
    Faulty env n (.outOfBounds n.variableName raw n.least n.greatest)

/-- What is within the bounds fits the field, and a word of 64 bits. -/
structure IsRoomy (n : NumericSetting) : Prop where
  field : n.greatest < Text.wordCount n.bits
  word : n.greatest < Text.wordCount 64

def fill (env : Lookup) (s : Settings) (n : NumericSetting) : Settings :=
  ((given? env n.variableName).bind Text.toNat?).elim s (n.set · s)

end NumericSetting

namespace Settings

/-- The number that the environment gives in a variable. -/
def number? (env : Lookup) (variableName : Text) : Option Nat :=
  (given? env variableName).bind Text.toNat?

def standard : Settings := {}

/-- The settings that an environment means: what it gives, and what is standard where it gives
nothing. -/
def meant (env : Lookup) : Settings where
  registryPath := (given? env "TOOLHUB_REGISTRY").getD (defaultRegistryPath env)
  probeInterval := (number? env "TOOLHUB_PROBE_INTERVAL_MS").getD standard.probeInterval
  probeWindow := (number? env "TOOLHUB_PROBE_WINDOW_MS").getD standard.probeWindow
  stopGrace := (number? env "TOOLHUB_STOP_GRACE_MS").getD standard.stopGrace
  handshakeTimeout := (number? env "TOOLHUB_HANDSHAKE_TIMEOUT_MS").getD standard.handshakeTimeout
  discoveryTimeout := (number? env "TOOLHUB_DISCOVERY_TIMEOUT_MS").getD standard.discoveryTimeout
  toolCallTimeout := (number? env "TOOLHUB_TOOL_CALL_TIMEOUT_MS").getD standard.toolCallTimeout
  logCapacity := (number? env "TOOLHUB_LOG_CAPACITY").getD standard.logCapacity
  defaultPort := (number? env "TOOLHUB_DEFAULT_PORT").getD standard.defaultPort
  logLevel := ((given? env "TOOLHUB_LOG_LEVEL").bind Level.parse?).getD standard.logLevel

def levelNames : List Text := ["debug", "info", "warn", "error"]

/-- The environment gives no level, or the name of one. -/
def LevelIsMet (env : Lookup) : Prop :=
  ∀ raw, given? env "TOOLHUB_LOG_LEVEL" = some raw → raw ∈ levelNames

structure Accepts (env : Lookup) : Prop where
  numbers : ∀ n ∈ numeric, n.IsMet env
  ordered : (meant env).probeInterval ≤ (meant env).probeWindow
  level : LevelIsMet env

/-- What is wrong with an environment first, in the order in which it is read. -/
inductive FirstFault (env : Lookup) : SettingsFault → Prop
  | number {before after : List NumericSetting} {n : NumericSetting} {f : SettingsFault}
    (order : numeric = before ++ n :: after) (earlier : ∀ m ∈ before, m.IsMet env)
    (faulty : n.Faulty env f) : FirstFault env f
  | order (numbers : ∀ n ∈ numeric, n.IsMet env)
    (exceeds : (meant env).probeWindow < (meant env).probeInterval) :
    FirstFault env .intervalExceedsWindow
  | level {raw : Text} (numbers : ∀ n ∈ numeric, n.IsMet env)
    (ordered : (meant env).probeInterval ≤ (meant env).probeWindow)
    (given : given? env "TOOLHUB_LOG_LEVEL" = some raw) (unknown : raw ∉ levelNames) :
    FirstFault env (.unknownLevel raw)

variable {env : Lookup} {n : NumericSetting} {ns before after : List NumericSetting}
  {s : Settings} {f : SettingsFault}

theorem numeric_roomy : ∀ n ∈ numeric, n.IsRoomy := by
  intro n member
  simp only [numeric, List.mem_cons, List.not_mem_nil, or_false] at member
  rcases member with rfl | rfl | rfl | rfl | rfl | rfl | rfl | rfl <;> exact ⟨by decide, by decide⟩

/-! ### One setting -/

theorem readNumber_of_met (s : Settings) (roomy : n.IsRoomy) (met : n.IsMet env) :
    readNumber env s n = .ok (n.fill env s) := by
  unfold readNumber NumericSetting.fill
  cases given : given? env n.variableName with
  | none => rfl
  | some raw =>
    obtain ⟨v, read, least, greatest⟩ := met raw given
    have ⟨field, word⟩ := roomy
    have whole : Text.toWord? 64 raw = some v := Text.toWord?_eq_some_iff.mpr ⟨read, by omega⟩
    have within : ¬(v < n.least ∨ n.greatest < v) := by omega
    have kept : v % Text.wordCount n.bits = v := Nat.mod_eq_of_lt (by omega)
    simp only [whole, Option.bind_some, read, Option.elim_some, kept]
    rw [if_neg within]

theorem readNumber_of_faulty (s : Settings) (faulty : n.Faulty env f) :
    readNumber env s n = .error f := by
  unfold readNumber
  cases faulty with
  | @notANumber raw given unread =>
    have unfit : Text.toWord? 64 raw = none := by
      rw [Option.eq_none_iff_forall_ne_some]
      intro v whole
      obtain ⟨read, fits⟩ := Text.toWord?_eq_some_iff.mp whole
      have := unread v read
      omega
    simp only [given, unfit]
  | @outOfBounds raw v given read fits beyond =>
    have whole : Text.toWord? 64 raw = some v := Text.toWord?_eq_some_iff.mpr ⟨read, fits⟩
    simp only [given, whole]
    rw [if_pos beyond]

theorem met_or_faulty (env : Lookup) (n : NumericSetting) :
    n.IsMet env ∨ ∃ f, n.Faulty env f := by
  cases given : given? env n.variableName with
  | none => exact .inl fun raw given' => by cases given.symm.trans given'
  | some raw =>
    by_cases whole : ∃ v, Text.toNat? raw = some v ∧ v < Text.wordCount 64
    · obtain ⟨v, read, fits⟩ := whole
      by_cases beyond : v < n.least ∨ n.greatest < v
      · exact .inr ⟨_, .outOfBounds given read fits beyond⟩
      · refine .inl fun raw' given' => ?_
        cases given.symm.trans given'
        exact ⟨v, read, by omega, by omega⟩
    · refine .inr ⟨_, .notANumber given fun v read => ?_⟩
      exact Nat.le_of_not_lt fun fits => whole ⟨v, read, fits⟩

/-! ### All settings -/

theorem readNumbers_of_met (s : Settings) (roomy : ∀ n ∈ ns, n.IsRoomy)
    (met : ∀ n ∈ ns, n.IsMet env) :
    ns.foldlM (readNumber env) s = .ok (ns.foldl (fun s n => n.fill env s) s) := by
  induction ns generalizing s with
  | nil => rfl
  | cons n ns ih =>
    obtain ⟨roomy, others⟩ := List.forall_mem_cons.mp roomy
    obtain ⟨met, rest⟩ := List.forall_mem_cons.mp met
    rw [List.foldlM_cons, readNumber_of_met s roomy met]
    exact ih _ others rest

theorem readNumbers_of_faulty (s : Settings) (roomy : ∀ m ∈ before, m.IsRoomy)
    (earlier : ∀ m ∈ before, m.IsMet env) (faulty : n.Faulty env f) :
    (before ++ n :: after).foldlM (readNumber env) s = .error f := by
  rw [List.foldlM_append, readNumbers_of_met s roomy earlier]
  change ((n :: after).foldlM (readNumber env) _) = _
  rw [List.foldlM_cons, readNumber_of_faulty _ faulty]
  rfl

theorem all_met_or_faulty (env : Lookup) (ns : List NumericSetting) :
    (∀ n ∈ ns, n.IsMet env) ∨ ∃ before n after f, ns = before ++ n :: after ∧
      (∀ m ∈ before, m.IsMet env) ∧ n.Faulty env f := by
  induction ns with
  | nil => exact .inl nofun
  | cons n ns ih =>
    rcases met_or_faulty env n with met | ⟨f, faulty⟩
    · rcases ih with rest | ⟨before, m, after, f, rfl, earlier, faulty⟩
      · exact .inl (List.forall_mem_cons.mpr ⟨met, rest⟩)
      · exact .inr ⟨n :: before, m, after, f, rfl, List.forall_mem_cons.mpr ⟨met, earlier⟩, faulty⟩
    · exact .inr ⟨[], n, ns, f, rfl, nofun, faulty⟩

/-- Filling in a setting sets its field to the number that is given, or to what it holds. -/
theorem fill_eq (get : Settings → Nat) (same : n.set (get s) s = s) :
    n.fill env s = n.set ((number? env n.variableName).getD (get s)) s := by
  unfold NumericSetting.fill
  change (number? env n.variableName).elim s (n.set · s) = _
  cases number? env n.variableName with
  | none => exact same.symm
  | some v => rfl

theorem filled_numeric (env : Lookup) :
    numeric.foldl (fun s n => n.fill env s) { registryPath := (meant env).registryPath } =
      { meant env with logLevel := standard.logLevel } := by
  simp only [numeric, List.foldl_cons, List.foldl_nil]
  rw [fill_eq defaultPort rfl, fill_eq logCapacity rfl, fill_eq toolCallTimeout rfl,
    fill_eq discoveryTimeout rfl, fill_eq handshakeTimeout rfl, fill_eq stopGrace rfl,
    fill_eq probeWindow rfl, fill_eq probeInterval rfl]
  rfl

/-! ### The log level -/

theorem parse?_eq_none_iff {t : Text} : Level.parse? t = none ↔ t ∉ levelNames := by
  have names : levelNames = [Level.debug, .info, .warn, .error].map Level.name := rfl
  rw [names, Level.parse?, List.find?_eq_none, List.mem_map]
  simp

theorem readLevel_of_met (s : Settings) (met : LevelIsMet env) :
    readLevel env s = .ok { s with
      logLevel := ((given? env "TOOLHUB_LOG_LEVEL").bind Level.parse?).getD s.logLevel } := by
  unfold readLevel
  cases given : given? env "TOOLHUB_LOG_LEVEL" with
  | none => rfl
  | some raw =>
    cases known : Level.parse? raw with
    | none => exact absurd (met raw given) (parse?_eq_none_iff.mp known)
    | some level => simp [known]

theorem readLevel_of_unknown (s : Settings) {raw : Text}
    (given : given? env "TOOLHUB_LOG_LEVEL" = some raw) (unknown : raw ∉ levelNames) :
    readLevel env s = .error (.unknownLevel raw) := by
  unfold readLevel
  simp only [given, parse?_eq_none_iff.mpr unknown]

theorem level_met_or_unknown (env : Lookup) :
    LevelIsMet env ∨ ∃ raw, given? env "TOOLHUB_LOG_LEVEL" = some raw ∧ raw ∉ levelNames := by
  by_cases unknown : ∃ raw, given? env "TOOLHUB_LOG_LEVEL" = some raw ∧ raw ∉ levelNames
  · exact .inr unknown
  · refine .inl fun raw given => ?_
    exact Decidable.byContradiction fun absent => unknown ⟨raw, given, absent⟩

/-! ### Reading the settings -/

theorem load_of_numbers (met : ∀ n ∈ numeric, n.IsMet env) :
    load env = (if (meant env).probeWindow < (meant env).probeInterval
      then .error .intervalExceedsWindow
      else readLevel env { meant env with logLevel := standard.logLevel }) := by
  unfold load
  have read := readNumbers_of_met { registryPath := (meant env).registryPath } numeric_roomy met
  rw [filled_numeric] at read
  change (numeric.foldlM (readNumber env) { registryPath := (meant env).registryPath } >>= _) = _
  rw [read]
  change (if _ then _ else _) = _
  split <;> rfl

theorem load_of_accepted (accepts : Accepts env) : load env = .ok (meant env) := by
  rw [load_of_numbers accepts.numbers, if_neg (Nat.not_lt.mpr accepts.ordered),
    readLevel_of_met _ accepts.level]
  rfl

theorem load_of_fault (fault : FirstFault env f) : load env = .error f := by
  cases fault with
  | @number before after n _ order earlier faulty =>
    have roomy : ∀ m ∈ before, m.IsRoomy := fun m member =>
      numeric_roomy m (order ▸ List.mem_append_left _ member)
    unfold load
    rw [order]
    change (_ >>= _) = _
    rw [readNumbers_of_faulty _ roomy earlier faulty]
    rfl
  | order numbers exceeds => rw [load_of_numbers numbers, if_pos exceeds]
  | level numbers ordered given unknown =>
    rw [load_of_numbers numbers, if_neg (Nat.not_lt.mpr ordered),
      readLevel_of_unknown _ given unknown]

theorem accepted_or_fault (env : Lookup) : Accepts env ∨ ∃ f, FirstFault env f := by
  rcases all_met_or_faulty env numeric with numbers | ⟨before, n, after, f, order, earlier, faulty⟩
  · by_cases ordered : (meant env).probeInterval ≤ (meant env).probeWindow
    · rcases level_met_or_unknown env with level | ⟨raw, given, unknown⟩
      · exact .inl ⟨numbers, ordered, level⟩
      · exact .inr ⟨_, .level numbers ordered given unknown⟩
    · exact .inr ⟨_, .order numbers (Nat.lt_of_not_le ordered)⟩
  · exact .inr ⟨f, .number order earlier faulty⟩

theorem load_eq_ok_iff : load env = .ok s ↔ Accepts env ∧ s = meant env := by
  rcases accepted_or_fault env with accepts | ⟨f, fault⟩
  · rw [load_of_accepted accepts, Except.ok.injEq]
    exact ⟨fun same => ⟨accepts, same.symm⟩, fun meant => meant.2.symm⟩
  · rw [load_of_fault fault]
    refine ⟨nofun, fun ⟨accepts, _⟩ => ?_⟩
    cases (load_of_fault fault).symm.trans (load_of_accepted accepts)

theorem load_eq_error_iff : load env = .error f ↔ FirstFault env f := by
  refine ⟨fun refused => ?_, load_of_fault⟩
  rcases accepted_or_fault env with accepts | ⟨g, fault⟩
  · cases refused.symm.trans (load_of_accepted accepts)
  · cases refused.symm.trans (load_of_fault fault)
    exact fault

/-! ### What is accepted -/

/-- Every setting that can be given is within its bounds. -/
structure InRange (s : Settings) : Prop where
  probeInterval : 10 ≤ s.probeInterval ∧ s.probeInterval ≤ longest
  probeWindow : 10 ≤ s.probeWindow ∧ s.probeWindow ≤ longest
  ordered : s.probeInterval ≤ s.probeWindow
  stopGrace : s.stopGrace ≤ longest
  handshakeTimeout : 1 ≤ s.handshakeTimeout ∧ s.handshakeTimeout ≤ longest
  discoveryTimeout : 1 ≤ s.discoveryTimeout ∧ s.discoveryTimeout ≤ longest
  toolCallTimeout : 1 ≤ s.toolCallTimeout ∧ s.toolCallTimeout ≤ longest
  logCapacity : 1 ≤ s.logCapacity ∧ s.logCapacity ≤ 1000000
  defaultPort : 1 ≤ s.defaultPort ∧ s.defaultPort ≤ 65535

theorem number?_within (met : n.IsMet env) {usual : Nat}
    (within : n.least ≤ usual ∧ usual ≤ n.greatest) :
    n.least ≤ (number? env n.variableName).getD usual ∧
      (number? env n.variableName).getD usual ≤ n.greatest := by
  unfold number?
  cases given : given? env n.variableName with
  | none => exact within
  | some raw =>
    obtain ⟨v, read, bounds⟩ := met raw given
    rw [Option.bind_some, read]
    exact bounds

theorem inRange_meant (accepts : Accepts env) : (meant env).InRange := by
  have numbers := accepts.numbers
  simp only [numeric, List.forall_mem_cons] at numbers
  obtain ⟨interval, window, grace, handshake, discovery, toolCall, capacity, port, -⟩ := numbers
  exact {
    probeInterval := number?_within interval (by decide)
    probeWindow := number?_within window (by decide)
    ordered := accepts.ordered
    stopGrace := (number?_within grace (by decide)).2
    handshakeTimeout := number?_within handshake (by decide)
    discoveryTimeout := number?_within discovery (by decide)
    toolCallTimeout := number?_within toolCall (by decide)
    logCapacity := number?_within capacity (by decide)
    defaultPort := number?_within port (by decide) }

/-- A number that does not fit 64 bits is none, and any other is out of bounds. -/
theorem code_of_faulty (faulty : n.Faulty env f) :
    f.fault.code = "invalid_integer" ∧
      (∀ v, number? env n.variableName = some v → Text.wordCount 64 ≤ v) ∨
    f.fault.code = "bounds_error" ∧
      ∃ v, number? env n.variableName = some v ∧ v < Text.wordCount 64 := by
  cases faulty with
  | notANumber given unread =>
    refine .inl ⟨rfl, fun v read => unread v ?_⟩
    rwa [number?, given] at read
  | @outOfBounds raw v given read fits =>
    refine .inr ⟨rfl, v, ?_, fits⟩
    rw [number?, given]
    exact read

/-! ### What is heeded -/

/-- The variables that decide the settings. -/
def heeded : List Text :=
  numeric.map (·.variableName) ++ (["TOOLHUB_LOG_LEVEL", "TOOLHUB_REGISTRY", "HOME"] : List Text)

variable {other : Lookup}

theorem readNumbers_congr (s : Settings)
    (same : ∀ n ∈ ns, given? other n.variableName = given? env n.variableName) :
    ns.foldlM (readNumber other) s = ns.foldlM (readNumber env) s := by
  induction ns generalizing s with
  | nil => rfl
  | cons n ns ih =>
    obtain ⟨first, rest⟩ := List.forall_mem_cons.mp same
    have read : readNumber other s n = readNumber env s n := by
      unfold readNumber
      rw [first]
    rw [List.foldlM_cons, List.foldlM_cons, read]
    exact congrArg _ (funext fun s => ih s rest)

theorem load_congr (same : ∀ v ∈ heeded, other v = env v) : load other = load env := by
  have given {v : Text} (member : v ∈ heeded) : given? other v = given? env v := by
    rw [given?, given?, same v member]
  have registry := given (v := "TOOLHUB_REGISTRY") (by simp [heeded])
  have home := given (v := "HOME") (by simp [heeded])
  have level := given (v := "TOOLHUB_LOG_LEVEL") (by simp [heeded])
  have numbers (s : Settings) : numeric.foldlM (readNumber other) s =
      numeric.foldlM (readNumber env) s :=
    readNumbers_congr s fun n member =>
      given (List.mem_append_left _ (List.mem_map_of_mem member))
  unfold load readLevel defaultRegistryPath
  rw [registry, home, level]
  simp only [numbers]

/-- Exactly the valid environments are accepted, and then the settings are those that are meant,
all within their bounds. Any other is refused with the fault of the first setting that is wrong, in
the order of reading, and no variable counts but those of the settings. -/
theorem load_accepts_the_valid (env : Lookup) :
    ((∃ s, load env = .ok s) ↔ (∀ n ∈ numeric, n.IsMet env) ∧
      (meant env).probeInterval ≤ (meant env).probeWindow ∧ LevelIsMet env) ∧
    (∀ s, load env = .ok s → s = meant env ∧ s.InRange) ∧
    (∀ f, load env = .error f ↔ FirstFault env f) ∧
    (∀ (n : NumericSetting) (f : SettingsFault), n.Faulty env f →
      f.fault.code = "invalid_integer" ∧
        (∀ v, number? env n.variableName = some v → Text.wordCount 64 ≤ v) ∨
      f.fault.code = "bounds_error" ∧
        ∃ v, number? env n.variableName = some v ∧ v < Text.wordCount 64) ∧
    ∀ other, (∀ v ∈ heeded, other v = env v) → load other = load env := by
  refine ⟨⟨fun ⟨s, loaded⟩ => ?_, fun ⟨numbers, ordered, level⟩ => ?_⟩, fun s loaded => ?_,
    fun f => load_eq_error_iff, fun n f => code_of_faulty, fun other => load_congr⟩
  · obtain ⟨accepts, -⟩ := load_eq_ok_iff.mp loaded
    exact ⟨accepts.numbers, accepts.ordered, accepts.level⟩
  · exact ⟨_, load_of_accepted ⟨numbers, ordered, level⟩⟩
  · obtain ⟨accepts, rfl⟩ := load_eq_ok_iff.mp loaded
    exact ⟨rfl, inRange_meant accepts⟩

end Settings

end ProviderHost
