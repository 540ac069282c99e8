import ProviderHost.Environment
import ProviderHost.Proofs.CommandLine.Scanning
import ProviderHost.Proofs.Text.Cutting

/-!
# Installing from the command line

The flags of an installation come in any order, each with its value, which is taken as it is. What
a line asks for is told by the last value of each flag that counts once, and by all the values of
the others (`parse_arguments`). So a wish comes through however its groups are arranged.
-/

namespace ProviderHost

inductive InstallFlag where
  | id | name | kind | command | arg | env | url | description | credential | template | setting
  deriving DecidableEq, Repr

namespace InstallFlag

def text : InstallFlag → Text
  | id => "--id"
  | name => "--name"
  | kind => "--kind"
  | command => "--command"
  | arg => "--arg"
  | env => "--env"
  | url => "--url"
  | description => "--description"
  | credential => "--credential"
  | template => "--template"
  | setting => "--set"

/-- Whether the last value of the flag counts, and not all of them. -/
def isSingle : InstallFlag → Bool
  | arg | env | setting => false
  | _ => true

end InstallFlag

/-- The flags of an installation with their values, in the order in which they are given. -/
abbrev InstallGroups := List (InstallFlag × Text)

namespace InstallGroups

def arguments (given : InstallGroups) : List Text :=
  Command.install.name :: given.flatMap fun g => [g.1.text, g.2]

def valuesOf (f : InstallFlag) (given : InstallGroups) : List Text :=
  (given.filter (·.1 = f)).map (·.2)

theorem valuesOf_append (f : InstallFlag) (given more : InstallGroups) :
    valuesOf f (given ++ more) = valuesOf f given ++ valuesOf f more := by
  simp [valuesOf]

theorem valuesOf_cons (f : InstallFlag) (g : InstallFlag × Text) (given : InstallGroups) :
    valuesOf f (g :: given) = if g.1 = f then g.2 :: valuesOf f given else valuesOf f given := by
  unfold valuesOf
  by_cases same : g.1 = f <;> simp [same]

theorem valuesOf_map (f g : InstallFlag) (values : List Text) :
    valuesOf f (values.map (g, ·)) = if g = f then values else [] := by
  unfold valuesOf
  induction values with
  | nil => simp
  | cons v values ih => by_cases same : g = f <;> simp_all

theorem lastValue?_eq_valuesOf (f : InstallFlag) (given : InstallGroups) :
    lastValue? f given = (valuesOf f given).getLast? := by
  simp [lastValue?, valuesOf]

def collect (given : InstallGroups) : InstallFlags :=
  { id := lastValue? .id given
    name := lastValue? .name given
    kind := lastValue? .kind given
    command := lastValue? .command given
    args := valuesOf .arg given
    env := valuesOf .env given
    url := lastValue? .url given
    description := lastValue? .description given
    credential := lastValue? .credential given
    template := lastValue? .template given
    sets := valuesOf .setting given }

theorem collect_concat (given : InstallGroups) (f : InstallFlag) (v : Text) :
    collect (given ++ [(f, v)]) =
      match f with
      | .id => { collect given with id := some v }
      | .name => { collect given with name := some v }
      | .kind => { collect given with kind := some v }
      | .command => { collect given with command := some v }
      | .arg => { collect given with args := valuesOf .arg given ++ [v] }
      | .env => { collect given with env := valuesOf .env given ++ [v] }
      | .url => { collect given with url := some v }
      | .description => { collect given with description := some v }
      | .credential => { collect given with credential := some v }
      | .template => { collect given with template := some v }
      | .setting => { collect given with sets := valuesOf .setting given ++ [v] } := by
  have last (g : InstallFlag) :
      lastValue? g (given ++ [(f, v)]) = if f = g then some v else lastValue? g given := by
    rw [lastValue?_append, lastValue?_cons]
    by_cases same : f = g
    · rw [if_pos same, if_pos same]
      rfl
    · rw [if_neg same, if_neg same]
      rfl
  have values (g : InstallFlag) :
      valuesOf g (given ++ [(f, v)]) =
        if f = g then valuesOf g given ++ [v] else valuesOf g given := by
    rw [valuesOf_append, valuesOf_cons]
    split
    · rfl
    · exact List.append_nil _
  unfold collect
  simp only [last, values]
  cases f <;> rfl

theorem read_flag {d : Draft} {before : InstallGroups} (installs : d.command = some .install)
    (kept : d.install = collect before) (f : InstallFlag) :
    d.read f.text = .flag fun v => { d with install := collect (before ++ [(f, v)]) } := by
  obtain ⟨registryPath, logLevel, command, words, install, callArguments⟩ := d
  cases installs
  cases kept
  simp only [collect_concat]
  cases f <;> rfl

/-- Flags with their values are scanned one after the other, whatever the values look like. -/
theorem scan_groups {d : Draft} {before : InstallGroups} (installs : d.command = some .install)
    (kept : d.install = collect before) (given : InstallGroups) :
    d.scan (given.flatMap fun g => [g.1.text, g.2]) =
      .ok { d with install := collect (before ++ given) } := by
  induction given generalizing d before with
  | nil =>
    rw [List.append_nil, ← kept]
    rfl
  | cons g given ih =>
    obtain ⟨f, v⟩ := g
    have rest : ({ d with install := collect (before ++ [(f, v)]) } : Draft).scan
        (given.flatMap fun g => [g.1.text, g.2]) =
          .ok { d with install := collect ((before ++ [(f, v)]) ++ given) } := ih installs rfl
    rw [List.append_assoc] at rest
    exact (Draft.scan_flag (read_flag installs kept f)).trans rest

/-- What a line asks for is told by what is kept of its flags. -/
theorem parse_arguments (isObject : Text → Bool) (given : InstallGroups) :
    Request.parse isObject (arguments given) =
      Request.ofInstall { command := .install } (collect given) := by
  have scanned : Draft.scan {} (arguments given) =
      .ok { command := some .install, install := collect given } :=
    scan_groups (d := { command := some .install }) rfl (show _ = collect [] from rfl) given
  rw [Request.parse, scanned]
  rfl

end InstallGroups

/-! ### Pairs -/

namespace Request

/-- Whether a text can be the key of a pair. -/
def IsKey (key : Text) : Prop := key ≠ [] ∧ Byte.equals ∉ key

theorem pair?_of_isKey {key : Text} (good : IsKey key) (value : Text) :
    pair? (key ++ "=" ++ value) = some (key, value) := by
  have cut : Text.cut Byte.equals (key ++ "=" ++ value) = (key, some value) := by
    rw [List.append_assoc]
    exact Text.cut_of_not_mem good.2 value
  simp only [pair?, cut, if_neg good.1]

/-- The first item that is no pair is reported. If there is none, the last value of a key counts. -/
theorem pairs_eq (flag : Text) (items : List Text) :
    pairs flag items =
      match items.find? fun item => (pair? item).isNone with
      | some item => .error (.badPair flag item)
      | none => .ok (Table.ofList (items.filterMap pair?)) := by
  unfold pairs Table.ofList
  generalize Table.empty = t
  induction items generalizing t with
  | nil => rfl
  | cons item items ih =>
    rw [List.foldlM_cons]
    cases found : pair? item with
    | none =>
      rw [List.find?_cons_of_pos (by simp [found])]
      rfl
    | some e =>
      rw [List.find?_cons_of_neg (by simp [found]), List.filterMap_cons_some found]
      exact ih (t.insert e.1 e.2)

/-- The pairs of a table come back from their items, in whatever order these stand. -/
theorem pairs_of_perm (flag : Text) {items : List Text} {t : Table Text}
    (good : ∀ e ∈ t.entries, IsKey e.1) (perm : items.Perm (Environment.toEntries t)) :
    pairs flag items = .ok t := by
  have reads : ∀ e ∈ t.entries, pair? (e.1 ++ "=" ++ e.2) = some e :=
    fun e member => pair?_of_isKey (good e member) e.2
  have whole : items.find? (fun item => (pair? item).isNone) = none := by
    rw [List.find?_eq_none]
    intro item member
    obtain ⟨e, present, rfl⟩ := List.mem_map.mp (perm.mem_iff.mp member)
    rw [reads e present]
    exact Bool.false_ne_true
  have entries : (Environment.toEntries t).filterMap pair? = t.entries :=
    filterMap_map_of_reads reads
  have listed := perm.filterMap pair?
  rw [entries] at listed
  rw [pairs_eq, whole, Table.ofList_of_perm listed]

/-- A pair whose key comes again later does not count. -/
theorem pairs_of_overridden (flag : Text) {key : Text} (good : IsKey key) (old new : Text)
    (front middle rest : List Text) :
    pairs flag (front ++ (key ++ "=" ++ old) :: (middle ++ (key ++ "=" ++ new) :: rest)) =
      pairs flag (front ++ (middle ++ (key ++ "=" ++ new) :: rest)) := by
  have reads (value : Text) := pair?_of_isKey good value
  have skipped (items : List Text) :
      ((key ++ "=" ++ old) :: items).find? (fun item => (pair? item).isNone) =
        items.find? fun item => (pair? item).isNone :=
    List.find?_cons_of_neg (by rw [reads old]; exact Bool.false_ne_true)
  rw [pairs_eq, pairs_eq, List.find?_append, skipped, ← List.find?_append]
  simp only [List.filterMap_append, List.filterMap_cons_some (reads old),
    List.filterMap_cons_some (reads new), Table.ofList_of_overridden]

end Request

theorem Request.ofInstall_congr (r : Request) (f : InstallFlags) {env env' sets sets' : List Text}
    (sameEnv : pairs "--env" env = pairs "--env" env')
    (sameSets : pairs "--set" sets = pairs "--set" sets') :
    r.ofInstall { f with env := env, sets := sets } =
      r.ofInstall { f with env := env', sets := sets' } := by
  unfold ofInstall
  simp only [sameEnv, sameSets]
  rfl

/-! ### Flags that are given again -/

namespace InstallGroups

variable {f : InstallFlag} (front middle rest : InstallGroups)

theorem valuesOf_of_other {g : InstallFlag} (other : f ≠ g) (v : Text) :
    valuesOf g (front ++ (f, v) :: rest) = valuesOf g (front ++ rest) := by
  rw [valuesOf_append, valuesOf_append, valuesOf_cons, if_neg other]

/-- A value of a flag that is given again later counts at most among the pairs. -/
theorem collect_of_overridden (notArg : f ≠ .arg) (old new : Text) :
    collect (front ++ (f, old) :: (middle ++ (f, new) :: rest)) =
      { collect (front ++ (middle ++ (f, new) :: rest)) with
        env := valuesOf .env (front ++ (f, old) :: (middle ++ (f, new) :: rest))
        sets := valuesOf .setting (front ++ (f, old) :: (middle ++ (f, new) :: rest)) } := by
  unfold collect
  simp only [lastValue?_of_overridden, valuesOf_of_other front _ notArg]

variable (isObject : Text → Bool)

theorem parse_of_overridden (single : f.isSingle) (old new : Text) :
    Request.parse isObject (arguments (front ++ (f, old) :: (middle ++ (f, new) :: rest))) =
      Request.parse isObject (arguments (front ++ (middle ++ (f, new) :: rest))) := by
  have other {g : InstallFlag} (many : g.isSingle = false) : f ≠ g := by
    rintro rfl
    exact Bool.false_ne_true (many.symm.trans single)
  rw [parse_arguments, parse_arguments, collect_of_overridden front middle rest (other rfl),
    valuesOf_of_other front _ (other rfl), valuesOf_of_other front _ (other rfl)]
  rfl

theorem parse_of_overridden_key (paired : f = .env ∨ f = .setting) {key : Text}
    (good : Request.IsKey key) (old new : Text) :
    Request.parse isObject (arguments
        (front ++ (f, key ++ "=" ++ old) :: (middle ++ (f, key ++ "=" ++ new) :: rest))) =
      Request.parse isObject (arguments
        (front ++ (middle ++ (f, key ++ "=" ++ new) :: rest))) := by
  have notArg : f ≠ .arg := by rcases paired with rfl | rfl <;> rintro ⟨⟩
  have values (flag : Text) : Request.pairs flag (valuesOf f
        (front ++ (f, key ++ "=" ++ old) :: (middle ++ (f, key ++ "=" ++ new) :: rest))) =
      Request.pairs flag (valuesOf f (front ++ (middle ++ (f, key ++ "=" ++ new) :: rest))) := by
    simp only [valuesOf_append, valuesOf_cons, if_true]
    exact Request.pairs_of_overridden flag good old new _ _ _
  rw [parse_arguments, parse_arguments, collect_of_overridden front middle rest notArg]
  rcases paired with rfl | rfl
  · rw [valuesOf_of_other front _ (show InstallFlag.env ≠ .setting by rintro ⟨⟩)]
    exact Request.ofInstall_congr _ _ (values _) rfl
  · rw [valuesOf_of_other front _ (show InstallFlag.setting ≠ .env by rintro ⟨⟩)]
    exact Request.ofInstall_congr _ _ rfl (values _)

end InstallGroups

/-! ### Wishes -/

inductive KindWord where
  | process | stdio | network | sse
  deriving DecidableEq, Repr

namespace KindWord

def text : KindWord → Text
  | process => "process"
  | stdio => "stdio"
  | network => "network"
  | sse => "sse"

def kind : KindWord → ProviderKind
  | process | stdio => .process
  | network | sse => .network

end KindWord

structure NamedValues where
  table : Table Text := .empty
  named : ∀ e ∈ table.entries, Request.IsKey e.1 := by nofun

/-- A provider that is described by flags of its own: a process has a command, and a network
provider a url. -/
structure OwnProvider where
  name : Text
  word : Option KindWord := none
  command : Option Text := none
  url : Option Text := none
  args : List Text := []
  reachable :
    match (word.map KindWord.kind).getD .process with
    | .process => ∃ c, command = some c ∧ c ≠ []
    | .network => url.isSome

inductive InstallSource where
  | own (p : OwnProvider)
  | template (id : Text) (name : Option Text) (values : NamedValues)

/-- What somebody wants to be installed. -/
structure InstallWish where
  source : InstallSource
  id : Option Text := none
  description : Option Text := none
  credential : Option Text := none
  env : NamedValues := {}

namespace InstallSource

def groups : InstallSource → InstallGroups
  | own p =>
    (.name, p.name) :: (p.word.map KindWord.text).toList.map (.kind, ·) ++
      p.command.toList.map (.command, ·) ++ p.url.toList.map (.url, ·) ++ p.args.map (.arg, ·)
  | template id name values =>
    (.template, id) :: name.toList.map (.name, ·) ++
      (Environment.toEntries values.table).map (.setting, ·)

end InstallSource

namespace InstallWish

def groups (w : InstallWish) : InstallGroups :=
  w.id.toList.map (.id, ·) ++ w.description.toList.map (.description, ·) ++
    w.credential.toList.map (.credential, ·) ++
    (Environment.toEntries w.env.table).map (.env, ·) ++ w.source.groups

def request (w : InstallWish) : Request :=
  let d : Definition :=
    { id := w.id.getD []
      description := w.description.getD []
      credential := w.credential
      env := w.env.table }
  match w.source with
  | .own p =>
    { command := .install
      definition := { d with
        name := p.name
        kind := (p.word.map KindWord.kind).getD .process
        command := p.command.getD []
        url := p.url
        args := p.args } }
  | .template id name values =>
    { command := .install
      definition := { d with name := name.getD [] }
      template := some id
      templateValues := values.table }

def flags (w : InstallWish) : InstallFlags :=
  let f : InstallFlags :=
    { id := w.id
      description := w.description
      credential := w.credential
      env := Environment.toEntries w.env.table }
  match w.source with
  | .own p =>
    { f with
      name := some p.name
      kind := p.word.map KindWord.text
      command := p.command
      url := p.url
      args := p.args }
  | .template id name values =>
    { f with template := some id, name := name, sets := Environment.toEntries values.table }

theorem collect_groups (w : InstallWish) : InstallGroups.collect w.groups = w.flags := by
  obtain ⟨source, id, description, credential, env⟩ := w
  have last (o : Option Text) : o.toList.getLast? = o := by cases o <;> rfl
  unfold InstallGroups.collect
  simp only [InstallGroups.lastValue?_eq_valuesOf]
  cases source <;>
    simp [groups, flags, InstallSource.groups, InstallGroups.valuesOf_append,
      InstallGroups.valuesOf_cons, InstallGroups.valuesOf_map, last]

theorem length_valuesOf_groups (w : InstallWish) {f : InstallFlag} (single : f.isSingle) :
    (InstallGroups.valuesOf f w.groups).length ≤ 1 := by
  have short (o : Option Text) : o.toList.length ≤ 1 := by cases o <;> simp
  obtain ⟨source, id, description, credential, env⟩ := w
  revert single
  cases source <;> cases f <;>
    simp [groups, InstallFlag.isSingle, InstallSource.groups, InstallGroups.valuesOf_append,
      InstallGroups.valuesOf_cons, InstallGroups.valuesOf_map, short]

/-- However the groups of a wish are arranged, what is kept of them is the same, but for the order
of the pairs. -/
theorem collect_of_perm {w : InstallWish} {given : InstallGroups} (arranged : given.Perm w.groups)
    (inOrder : given.filter (·.1 = .arg) = w.groups.filter (·.1 = .arg)) :
    InstallGroups.collect given =
      { w.flags with
        env := InstallGroups.valuesOf .env given
        sets := InstallGroups.valuesOf .setting given } := by
  have same {f : InstallFlag} (single : f.isSingle) :
      lastValue? f given = lastValue? f w.groups := by
    have perm : (InstallGroups.valuesOf f given).Perm (InstallGroups.valuesOf f w.groups) :=
      (arranged.filter _).map _
    have short := w.length_valuesOf_groups single
    rw [InstallGroups.lastValue?_eq_valuesOf, InstallGroups.lastValue?_eq_valuesOf]
    generalize InstallGroups.valuesOf f w.groups = values at perm short
    match values, short with
    | [], _ => rw [perm.eq_nil]
    | [v], _ => rw [perm.eq_singleton]
  have args : InstallGroups.valuesOf .arg given = InstallGroups.valuesOf .arg w.groups :=
    congrArg (List.map Prod.snd) inOrder
  rw [← w.collect_groups]
  unfold InstallGroups.collect
  rw [same rfl, same rfl, same rfl, same rfl, same rfl, same rfl, same rfl, same rfl, args]

theorem kindOf_word (word : Option KindWord) :
    Request.kindOf (word.map KindWord.text) = .ok ((word.map KindWord.kind).getD .process) := by
  cases word with
  | none => rfl
  | some word => cases word <;> rfl

theorem checkReachable_own (p : OwnProvider) (f : InstallFlags) (noTemplate : f.template = none)
    {d : Definition} (kind : d.kind = (p.word.map KindWord.kind).getD .process)
    (command : d.command = p.command.getD []) (url : d.url = p.url) :
    Request.checkReachable f d = .ok () := by
  have reachable := p.reachable
  unfold Request.checkReachable
  rw [noTemplate, if_neg (by simp), kind]
  cases h : (p.word.map KindWord.kind).getD .process with
  | process =>
    rw [h] at reachable
    obtain ⟨c, given, nonempty⟩ := reachable
    simp [command, given, nonempty]
  | network =>
    rw [h] at reachable
    obtain ⟨u, given⟩ := Option.isSome_iff_exists.mp reachable
    simp [url, given]

theorem ofInstall_flags (w : InstallWish) {env sets : List Text} (envPerm : env.Perm w.flags.env)
    (setsPerm : sets.Perm w.flags.sets) :
    Request.ofInstall { command := .install } { w.flags with env := env, sets := sets } =
      .ok w.request := by
  obtain ⟨source, id, description, credential, named⟩ := w
  cases source with
  | own p =>
    have read := Request.pairs_of_perm "--env" named.named envPerm
    have unset : sets = [] := setsPerm.eq_nil
    have kind := kindOf_word p.word
    subst unset
    simp only [Request.ofInstall, flags, read, kind]
    change Request.checkReachable _ _ >>= _ = _
    rw [checkReachable_own p _ rfl rfl rfl rfl]
    rfl
  | template t name values =>
    have read := Request.pairs_of_perm "--env" named.named envPerm
    have readSets := Request.pairs_of_perm "--set" values.named setsPerm
    simp only [Request.ofInstall, flags, read, readSets]
    rfl

/-- A wish comes through its command line as it is, whatever its values look like and however its
groups are arranged, if the arguments keep their order. Of a flag that counts once the last value
counts, and so does the last pair of a key. -/
theorem install_arguments_survive (isObject : Text → Bool) (w : InstallWish)
    {given : InstallGroups} (arranged : given.Perm w.groups)
    (inOrder : given.filter (·.1 = .arg) = w.groups.filter (·.1 = .arg)) :
    Request.parse isObject given.arguments = .ok w.request ∧
    (∀ (front middle rest : InstallGroups) (f : InstallFlag) (old new : Text), f.isSingle →
      Request.parse isObject
          (InstallGroups.arguments (front ++ (f, old) :: (middle ++ (f, new) :: rest))) =
        Request.parse isObject
          (InstallGroups.arguments (front ++ (middle ++ (f, new) :: rest)))) ∧
    (∀ (front middle rest : InstallGroups) (f : InstallFlag) (key old new : Text),
      f = .env ∨ f = .setting → Request.IsKey key →
      Request.parse isObject (InstallGroups.arguments
          (front ++ (f, key ++ "=" ++ old) :: (middle ++ (f, key ++ "=" ++ new) :: rest))) =
        Request.parse isObject (InstallGroups.arguments
          (front ++ (middle ++ (f, key ++ "=" ++ new) :: rest)))) := by
  have env : (InstallGroups.valuesOf .env given).Perm w.flags.env := by
    rw [← w.collect_groups]
    exact (arranged.filter _).map _
  have sets : (InstallGroups.valuesOf .setting given).Perm w.flags.sets := by
    rw [← w.collect_groups]
    exact (arranged.filter _).map _
  refine ⟨?_, fun front middle rest f old new single => ?_,
    fun front middle rest f key old new paired good => ?_⟩
  · rw [InstallGroups.parse_arguments, collect_of_perm arranged inOrder]
    exact w.ofInstall_flags env sets
  · exact InstallGroups.parse_of_overridden front middle rest isObject single old new
  · exact InstallGroups.parse_of_overridden_key front middle rest isObject paired good old new

/-- Values that look like flags or hold an equals sign come through among scattered groups. -/
theorem flags_as_values_survive :
    Request.parse (fun _ => false)
        ["install", "--arg", "--help", "--env", "A=--arg=x", "--command", "--registry",
          "--id", "", "--arg", "", "--name", "--name", "--env", "B=", "--kind", "stdio"] =
      .ok { command := .install
            definition :=
              { id := ""
                name := "--name"
                command := "--registry"
                args := ["--help", ""]
                env := Table.ofList [("A", "--arg=x"), ("B", "")] } } :=
  (@install_arguments_survive (fun _ => false)
    { source := .own
        { name := "--name"
          word := some .stdio
          command := some "--registry"
          args := ["--help", ""]
          reachable := ⟨_, rfl, by decide⟩ }
      id := some ""
      env :=
        { table := Table.ofList [("A", "--arg=x"), ("B", "")]
          named := by unfold Request.IsKey; decide } }
    [(.arg, "--help"), (.env, "A=--arg=x"), (.command, "--registry"), (.id, ""),
      (.arg, ""), (.name, "--name"), (.env, "B="), (.kind, "stdio")]
    (by decide) (by decide)).1

end InstallWish

end ProviderHost
