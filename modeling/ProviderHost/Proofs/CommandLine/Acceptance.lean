import ProviderHost.CommandLine.Session
import ProviderHost.Proofs.CommandLine.Installing
import ProviderHost.Proofs.Provider.Templates

/-!
# Accepted installations

A line that is accepted as an installation is checked again when its definition comes to the
registry. What the second check can still refuse is an empty name or an unreadable url; a
definition from a template passes it always. Everything that counts more than once in a line is
kept in the order in which it is given (`kept_of_scan`).
-/

namespace ProviderHost

theorem exists_of_bind_eq_ok {ε α β : Type} {x : Except ε α} {f : α → Except ε β} {b : β}
    (done : x >>= f = .ok b) : ∃ a, x = .ok a ∧ f a = .ok b := by
  cases x with
  | error e => cases done
  | ok a => exact ⟨a, rfl, done⟩

namespace Draft

/-- The pairs that a line gives with a flag. -/
def pairsGiven (flag : Text) (args : List Text) : List (Text × Text) :=
  ((({} : Draft).flags args |>.filter (·.1 = flag)).map (·.2)).filterMap Request.pair?

/-! ### What is kept of a flag -/

structure IsKept (flag : Text) (kept : InstallFlags → List Text) : Prop where
  ofInstall : flag ∉ ([("--registry" : Text), "--log-level", "--args"])
  setters : ∀ s ∈ InstallFlags.setters, ∀ v f,
    kept (s.2 v f) = kept f ++ if s.1 = flag then [v] else []

theorem isKept_sets : IsKept "--set" (·.sets) where
  ofInstall := by decide
  setters s member v f := by
    simp only [InstallFlags.setters, List.mem_cons, List.not_mem_nil, or_false] at member
    rcases member with rfl | rfl | rfl | rfl | rfl | rfl | rfl | rfl | rfl | rfl | rfl
    all_goals first | rfl | exact (List.append_nil f.sets).symm

theorem isKept_env : IsKept "--env" (·.env) where
  ofInstall := by decide
  setters s member v f := by
    simp only [InstallFlags.setters, List.mem_cons, List.not_mem_nil, or_false] at member
    rcases member with rfl | rfl | rfl | rfl | rfl | rfl | rfl | rfl | rfl | rfl | rfl
    all_goals first | rfl | exact (List.append_nil f.env).symm

/-- What an argument does to what is kept of the flags: nothing, unless it is one of them. -/
def Meddles (d : Draft) (arg : Text) : Argument → Prop
  | .fault _ => True
  | .word d' => d'.install = d.install
  | .flag keep =>
    (arg ∈ ([("--registry" : Text), "--log-level", "--args"]) ∧
      ∀ v, (keep v).install = d.install) ∨
    ∃ s ∈ InstallFlags.setters, s.1 = arg ∧ ∀ v, (keep v).install = s.2 v d.install

variable (d : Draft) (arg : Text)

theorem meddles_plain : Meddles d arg (d.plain arg) := by
  unfold plain
  split
  · trivial
  · rfl

theorem meddles_afterCommand (c : Command) : Meddles d arg (d.afterCommand c arg) := by
  unfold afterCommand
  split
  · split
    · split
      · rename_i name set found
        obtain rfl : name = arg := by simpa using List.find?_some found
        exact .inr ⟨_, List.mem_of_find?_eq_some found, rfl, fun _ => rfl⟩
      · trivial
    · exact meddles_plain d arg
  · split
    · rename_i callArguments
      exact .inl ⟨by simp [callArguments], fun _ => rfl⟩
    · exact meddles_plain d arg
  · exact meddles_plain d arg

theorem meddles_read : Meddles d arg (d.read arg) := by
  unfold Draft.read
  split
  · rename_i registry
    exact .inl ⟨by simp [registry], fun _ => rfl⟩
  split
  · rename_i logLevel
    exact .inl ⟨by simp [logLevel], fun _ => rfl⟩
  split
  · trivial
  split
  · unfold beforeCommand
    split
    · trivial
    · split
      · rfl
      · trivial
  · exact meddles_afterCommand d arg _

variable {d arg} {flag : Text} {keep : Text → Draft} {kept : InstallFlags → List Text}

theorem kept_of_flag (all : IsKept flag kept) (read : d.read arg = .flag keep) (v : Text) :
    kept (keep v).install = kept d.install ++ if arg = flag then [v] else [] := by
  have meddles := meddles_read d arg
  rw [read] at meddles
  rcases meddles with ⟨other, same⟩ | ⟨s, setter, rfl, set⟩
  · have notOwn : arg ≠ flag := fun own => all.ofInstall (own ▸ other)
    rw [same, if_neg notOwn, List.append_nil]
  · rw [set]
    exact all.setters s setter v d.install

/-- All values of such a flag are kept, in the order in which they are given. -/
theorem kept_of_scan (all : IsKept flag kept) {d e : Draft} {args : List Text}
    (scanned : d.scan args = .ok e) :
    kept e.install = kept d.install ++ ((d.flags args).filter (·.1 = flag)).map (·.2) := by
  fun_induction Draft.scan d args with
  | case1 d =>
    cases scanned
    exact (List.append_nil _).symm
  | case2 d arg rest cause read => cases scanned
  | case3 d arg rest d' read ih =>
    have same : d'.install = d.install := by
      have meddles := meddles_read d arg
      rwa [read] at meddles
    rw [ih scanned, same, flags_word read]
  | case4 d arg keep read => cases scanned
  | case5 d arg keep read v rest ih =>
    rw [ih scanned, kept_of_flag all read, flags_flag read, List.append_assoc]
    by_cases same : arg = flag <;> simp [same]

end Draft

namespace Request

variable {isObject : Text → Bool} {args : List Text} {r s : Request} {f : InstallFlags}

/-! ### What is checked of an installation -/

theorem checkReachable_eq_ok_iff (noTemplate : f.template = none) {d : Definition} :
    checkReachable f d = .ok () ↔
      (d.kind = .process → d.command ≠ []) ∧ (d.kind = .network → d.url.isSome) := by
  unfold checkReachable
  rw [noTemplate, if_neg (by simp)]
  cases d.kind with
  | process => by_cases bare : d.command = [] <;> simp [bare]
  | network => cases d.url <;> simp

structure Installs (f : InstallFlags) (r : Request) : Prop where
  template : r.template = f.template
  values : pairs "--set" f.sets = .ok r.templateValues
  env : pairs "--env" f.env = .ok r.definition.env
  reachable : checkReachable f r.definition = .ok ()

theorem installs_of_ofInstall (passed : s.ofInstall f = .ok r) : Installs f r := by
  unfold ofInstall at passed
  obtain ⟨values, setsRead, passed⟩ := exists_of_bind_eq_ok passed
  obtain ⟨_, -, passed⟩ := exists_of_bind_eq_ok passed
  obtain ⟨kind, -, passed⟩ := exists_of_bind_eq_ok passed
  obtain ⟨env, envRead, passed⟩ := exists_of_bind_eq_ok passed
  obtain ⟨_, reachable, passed⟩ := exists_of_bind_eq_ok passed
  cases passed
  exact ⟨rfl, setsRead, envRead, reachable⟩

theorem installs_of_parse (accepted : parse isObject args = .ok r)
    (installs : r.command = .install) : ∃ d, Draft.scan {} args = .ok d ∧ Installs d.install r := by
  obtain ⟨d, scanned, accepted⟩ := exists_of_bind_eq_ok accepted
  refine ⟨d, scanned, ?_⟩
  unfold ofDraft at accepted
  cases command : d.command with
  | none =>
    rw [command] at accepted
    cases accepted
  | some c =>
    rw [command] at accepted
    obtain ⟨level, -, accepted⟩ := exists_of_bind_eq_ok accepted
    obtain ⟨_, -, accepted⟩ := exists_of_bind_eq_ok accepted
    obtain ⟨_, -, accepted⟩ := exists_of_bind_eq_ok accepted
    split at accepted
    · exact installs_of_ofInstall accepted
    · rename_i other
      cases accepted
      exact absurd installs other

theorem ofList_of_pairs {flag : Text} {items : List Text} {t : Table Text}
    (read : pairs flag items = .ok t) : t = Table.ofList (items.filterMap pair?) := by
  rw [pairs_eq] at read
  split at read
  · cases read
  · cases read
    rfl

theorem pairs_of_parse (accepted : parse isObject args = .ok r) (installs : r.command = .install) :
    r.templateValues = Table.ofList (Draft.pairsGiven "--set" args) ∧
      r.definition.env = Table.ofList (Draft.pairsGiven "--env" args) := by
  obtain ⟨d, scanned, passed⟩ := installs_of_parse accepted installs
  have sets := Draft.kept_of_scan Draft.isKept_sets scanned
  have env := Draft.kept_of_scan Draft.isKept_env scanned
  rw [ofList_of_pairs passed.values, ofList_of_pairs passed.env]
  dsimp only at sets env
  rw [sets, env]
  exact ⟨rfl, rfl⟩

/-- What the registry can still refuse of a definition that is described by flags of its own. -/
theorem check_of_installs (passed : Installs f r) (noTemplate : r.template = none) :
    r.definition.check = .ok () ↔
      ¬(r.definition.name = [] ∨ r.definition.kind = .network ∧
        ∃ url, r.definition.url = some url ∧ ∃ cause, Url.parse url = .error cause) := by
  obtain ⟨launchable, addressed⟩ :=
    (checkReachable_eq_ok_iff (passed.template ▸ noTemplate)).mp passed.reachable
  rw [Definition.check_eq_ok_iff, not_or]
  refine and_congr_right fun _ => ?_
  cases kind : r.definition.kind with
  | process => simpa using launchable kind
  | network =>
    obtain ⟨url, given⟩ := Option.isSome_iff_exists.mp (addressed kind)
    cases read : Url.parse url <;> simp [given, read]

theorem definitionOf_of_template {id : Text} {filled : Definition} (chosen : r.template = some id)
    (instantiated : Template.instantiate id r.templateValues = .ok filled) :
    ∃ t ∈ Template.builtin, t.id = id ∧
      (∀ f ∈ t.fields, f.required → (f.given? r.templateValues).isSome) ∧
      ∃ d, Session.definitionOf r = .ok d ∧ d.check = .ok () ∧
        d.command = t.command ∧ d.kind = t.kind ∧
        d.args = t.args ++ TemplateField.arguments t.fields r.templateValues ∧
        ∀ key, d.env.get? key = (r.definition.env.get? key <|>
          lastValue? key (TemplateField.settings t.fields r.templateValues)) := by
  obtain ⟨t, found, complete, rfl⟩ := Template.instantiate_eq_ok_iff.mp instantiated
  have builtin := List.mem_of_find?_eq_some found
  obtain ⟨named, process, launchable⟩ := Template.launchable_of_builtin t builtin
  refine ⟨t, builtin, by simpa using List.find?_some found, complete, _,
    by simp only [Session.definitionOf, chosen, instantiated]; rfl, ?_, rfl, rfl, rfl,
    fun key => ?_⟩
  · refine Definition.check_eq_ok_iff.mpr ⟨?_, fun _ => launchable, fun network => ?_⟩
    · dsimp only
      split
      · exact named
      · assumption
    · exact absurd (network.symm.trans process) (by rintro ⟨⟩)
  · have initial : t.blank.env.get? key = none := rfl
    rw [Table.get?_union, Template.get?_env_filledIn, initial]
    cases lastValue? key (TemplateField.settings t.fields r.templateValues) <;> rfl

/-- Of an accepted installation the registry refuses nothing but an empty name and an unreadable
url, and what comes from a template never. The command, the kind and the arguments of a template are
kept, and a value that is set for it gets into the environment only where the template asks. -/
theorem registry_agrees_with_command_line (accepted : parse isObject args = .ok r)
    (installs : r.command = .install) :
    (r.template = none →
      Session.definitionOf r = .ok r.definition ∧
      (r.definition.check = .ok () ↔
        ¬(r.definition.name = [] ∨ r.definition.kind = .network ∧
          ∃ url, r.definition.url = some url ∧ ∃ cause, Url.parse url = .error cause))) ∧
    ∀ id filled, r.template = some id → Template.instantiate id r.templateValues = .ok filled →
      let set := Draft.pairsGiven "--set" args
      let env := Draft.pairsGiven "--env" args
      ∃ t ∈ Template.builtin, t.id = id ∧
        (∀ f ∈ t.fields, f.required → (f.given? (Table.ofList set)).isSome) ∧
        ∃ d, Session.definitionOf r = .ok d ∧ d.check = .ok () ∧
          d.command = t.command ∧ d.kind = t.kind ∧
          d.args = t.args ++ TemplateField.arguments t.fields (Table.ofList set) ∧
          ∀ key value, d.env.get? key = some value ↔
            lastValue? key env = some value ∨
            lastValue? key env = none ∧ (∃ f ∈ t.fields, f.toEnvironment ∧ f.name = key) ∧
              value ≠ [] ∧ lastValue? key set = some value := by
  obtain ⟨d, -, passed⟩ := installs_of_parse accepted installs
  obtain ⟨values, env⟩ := pairs_of_parse accepted installs
  refine ⟨fun noTemplate => ⟨?_, check_of_installs passed noTemplate⟩,
    fun id filled chosen done => ?_⟩
  · rw [Session.definitionOf, noTemplate]
  · obtain ⟨t, builtin, named, complete, d, handed, checked, command, kind, arguments, found⟩ :=
      definitionOf_of_template chosen done
    rw [values] at complete arguments
    refine ⟨t, builtin, named, complete, d, handed, checked, command, kind, arguments,
      fun key value => ?_⟩
    have set := @TemplateField.lastValue?_settings t.fields r.templateValues key value
    rw [values, Table.get?_ofList] at set
    rw [found, env, values, Table.get?_ofList, ← set]
    cases lastValue? key (Draft.pairsGiven "--env" args) <;> simp

/-- A url of another scheme gets as far as the registry, and a value that is set under a name that
the template does not ask for gets nowhere. -/
theorem wrong_scheme_and_stray_setting :
    let isObject : Text → Bool := fun _ => false
    let network : List Text := ["install", "--kind", "sse", "--name", "x", "--url", "https://h"]
    let template : List Text := ["install", "--template", "filesystem", "--set", "HOME=/x",
      "--name", "", "--set", "path=/srv", "--env", "A=b"]
    ∃ r s d, parse isObject network = .ok r ∧ r.definition.check ≠ .ok () ∧
      parse isObject template = .ok s ∧ Session.definitionOf s = .ok d ∧ d.check = .ok () ∧
      d.args.getLast? = some "/srv" ∧ d.env.get? "A" = some "b" ∧
      ∀ value, d.env.get? "HOME" ≠ some value := by
  intro isObject network template
  let r : Request :=
    { command := .install
      definition := { name := "x", kind := .network, url := some "https://h" } }
  let s : Request :=
    { command := .install
      definition := { env := Table.ofList [("A", "b")] }
      template := some "filesystem"
      templateValues := Table.ofList [("HOME", "/x"), ("path", "/srv")] }
  have accepted : parse isObject network = .ok r := rfl
  have chosen : parse isObject template = .ok s := rfl
  obtain ⟨filled, instantiated⟩ : ∃ d, Template.instantiate "filesystem" s.templateValues = .ok d :=
    ⟨_, rfl⟩
  obtain ⟨-, checks⟩ := (registry_agrees_with_command_line accepted rfl).1 rfl
  obtain ⟨t, builtin, named, -, d, handed, checked, -, -, arguments, found⟩ :=
    (registry_agrees_with_command_line chosen rfl).2 "filesystem" filled rfl instantiated
  have only : ∀ t ∈ Template.builtin, t.id = "filesystem" → some t = Template.builtin.head? := by
    decide
  obtain rfl : t = _ := Option.some.inj (only t builtin named)
  refine ⟨r, s, d, accepted, fun passes => checks.mp passes (.inr ⟨rfl, "https://h", rfl, _, rfl⟩),
    chosen, handed, checked, arguments ▸ rfl, (found "A" "b").mpr (.inl rfl), fun value set => ?_⟩
  rcases (found "HOME" value).mp set with given | ⟨-, ⟨f, declared, -, same⟩, -⟩
  · cases given
  · obtain rfl := List.mem_singleton.mp declared
    exact absurd same (by decide)

end Request

end ProviderHost
