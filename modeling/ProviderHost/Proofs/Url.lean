import ProviderHost.Proofs.Text.Cutting
import ProviderHost.Url

/-!
# The normal form of a URL

Every accepted spelling is read as a URL in normal form (`normal_of_parse`), and one in normal form
is read back from its printed text (`parse_print`): the host holds no slash, so the first slash
behind the scheme starts the path, and the port no colon, so the last colon starts the port.
-/

namespace ProviderHost.Url

structure IsNormal (u : Url) : Prop where
  scheme : u.scheme = "http"
  host_ne_nil : u.host ≠ []
  slash_notMem_host : Byte.slash ∉ u.host
  port_ne_nil : u.port ≠ []
  port_digits : u.port.all Byte.isDigit
  basePath : u.basePath = [] ∨
    u.basePath.head? = some Byte.slash ∧ u.basePath.getLast? ≠ some Byte.slash

namespace IsNormal

variable {u : Url} (normal : u.IsNormal)

include normal

theorem colon_notMem_port : Byte.colon ∉ u.port := by
  intro member
  exact absurd (List.all_eq_true.mp normal.port_digits _ member) (by decide)

theorem slash_notMem_authority : Byte.slash ∉ u.host ++ Byte.colon :: u.port := by
  intro member
  rcases List.mem_append.mp member with host | port
  · exact normal.slash_notMem_host host
  · rcases List.mem_cons.mp port with colon | digit
    · exact absurd colon (by decide)
    · exact absurd (List.all_eq_true.mp normal.port_digits _ digit) (by decide)

theorem getLast?_basePath : u.basePath.getLast? ≠ some Byte.slash := by
  rcases normal.basePath with empty | ⟨-, last⟩
  · rw [empty]
    rintro ⟨⟩
  · exact last

end IsNormal

/-! ### Reading -/

theorem parse_eq_ok_iff {text : Text} {u : Url} :
    parse text = .ok u ↔ ∃ rest authority,
      splitScheme text = (u.scheme, rest) ∧ u.scheme = "http" ∧
      splitPath rest = (authority, u.basePath) ∧ splitPort authority = (u.host, u.port) ∧
      u.host ≠ [] ∧ u.port ≠ [] ∧ u.port.all Byte.isDigit := by
  constructor
  · intro accepted
    unfold parse at accepted
    dsimp only at accepted
    split at accepted
    · cases accepted
    · split at accepted
      · cases accepted
      · split at accepted
        · cases accepted
        · rename_i http host port
          cases accepted
          obtain ⟨nonempty, digits⟩ := not_or.mp port
          exact ⟨_, _, rfl, Decidable.not_not.mp http, rfl, rfl, host, nonempty,
            Decidable.not_not.mp digits⟩
  · rintro ⟨rest, authority, scheme, http, path, port, host_ne_nil, port_ne_nil, digits⟩
    unfold parse
    simp only [scheme, path, port, http, host_ne_nil, port_ne_nil, digits]
    obtain ⟨scheme, host, port, basePath⟩ := u
    cases http
    rfl

theorem splitPath_authority {rest authority basePath : Text}
    (cuts : splitPath rest = (authority, basePath)) : Byte.slash ∉ authority := by
  unfold splitPath at cuts
  split at cuts
  · rename_i front uncut
    cases cuts
    obtain ⟨absent, rfl⟩ := Text.of_cut_eq_none uncut
    exact absent
  · rename_i front path found
    cases cuts
    exact (Text.of_cut_eq_some found).1

theorem splitPath_basePath {rest authority basePath : Text}
    (cuts : splitPath rest = (authority, basePath)) :
    basePath = [] ∨ basePath.head? = some Byte.slash ∧ basePath.getLast? ≠ some Byte.slash := by
  unfold splitPath at cuts
  split at cuts
  · cases cuts
    exact .inl rfl
  · rename_i front path found
    cases cuts
    have begins := Text.dropEnd_prefix (· == Byte.slash) (Byte.slash :: path)
    cases kept : Text.dropEnd (· == Byte.slash) (Byte.slash :: path) with
    | nil => exact .inl rfl
    | cons c more =>
      rw [kept] at begins
      refine .inr ⟨congrArg some (List.cons_prefix_cons.mp begins).1, fun last => ?_⟩
      rw [← kept] at last
      exact absurd (Text.getLast?_dropEnd _ _ _ last) (by decide)

theorem splitPort_host {authority host port : Text} (noSlash : Byte.slash ∉ authority)
    (cuts : splitPort authority = (host, port)) : Byte.slash ∉ host := by
  unfold splitPort at cuts
  cases found : Text.cutLast? Byte.colon authority with
  | none =>
    rw [found] at cuts
    cases cuts
    exact noSlash
  | some parts =>
    rw [found] at cuts
    cases cuts
    intro member
    rw [(Text.of_cutLast?_eq_some found).2] at noSlash
    exact noSlash (List.mem_append_left _ member)

theorem normal_of_parse {text : Text} {u : Url} (accepted : parse text = .ok u) : u.IsNormal := by
  obtain ⟨rest, authority, -, http, path, port, host_ne_nil, port_ne_nil, digits⟩ :=
    parse_eq_ok_iff.mp accepted
  exact ⟨http, host_ne_nil, splitPort_host (splitPath_authority path) port, port_ne_nil, digits,
    splitPath_basePath path⟩

/-! ### Printing -/

theorem splitPath_append {authority basePath : Text} (noSlash : Byte.slash ∉ authority)
    (normal : basePath = [] ∨
      basePath.head? = some Byte.slash ∧ basePath.getLast? ≠ some Byte.slash) :
    splitPath (authority ++ basePath) = (authority, basePath) := by
  unfold splitPath
  match basePath, normal with
  | [], _ => rw [List.append_nil, Text.cut_of_absent noSlash]
  | c :: path, .inr ⟨first, last⟩ =>
    obtain rfl : c = Byte.slash := Option.some.inj first
    have kept : Text.dropEnd (· == Byte.slash) (Byte.slash :: path) = Byte.slash :: path := by
      refine Text.dropEnd_eq_self fun c final => beq_eq_false_iff_ne.mpr ?_
      rintro rfl
      exact last final
    rw [Text.cut_of_not_mem noSlash]
    exact congrArg _ kept

/-- A URL in normal form is read back from its printed text. -/
theorem parse_print {u : Url} (normal : u.IsNormal) : parse u.print = .ok u := by
  have printed : u.print = "http" ++ ("://" ++ (u.host ++ Byte.colon :: u.port ++ u.basePath)) := by
    rw [print, normal.scheme]
    simp [Text.ofString]
  have path := splitPath_append normal.slash_notMem_authority normal.basePath
  have port : splitPort (u.host ++ Byte.colon :: u.port) = (u.host, u.port) := by
    rw [splitPort, Text.cutLast?_of_not_mem u.host normal.colon_notMem_port, Option.getD_some]
  refine parse_eq_ok_iff.mpr ⟨_, _, ?_, normal.scheme, path, port, normal.host_ne_nil,
    normal.port_ne_nil, normal.port_digits⟩
  rw [printed, normal.scheme]
  rfl

/-! ### Joining -/

theorem target_of_slash (u : Url) {q : Text} (rooted : q.head? = some Byte.slash) :
    u.target q = u.basePath ++ q := by
  cases q with
  | nil => cases rooted
  | cons b q => rw [target, if_pos (Option.some.inj rooted)]

theorem target_of_not_slash (u : Url) {q : Text} (given : q ≠ [])
    (bare : q.head? ≠ some Byte.slash) : u.target q = u.target (Byte.slash :: q) := by
  have rooted : u.target (Byte.slash :: q) = u.basePath ++ Byte.slash :: q := u.target_of_slash rfl
  cases q with
  | nil => exact absurd rfl given
  | cons b q =>
    rw [rooted, target, if_neg fun same => bare (congrArg some same), List.append_assoc]
    rfl

theorem head?_target {u : Url} (normal : u.IsNormal) (q : Text) :
    (u.target q).head? = some Byte.slash := by
  have rooted {q : Text} (h : q.head? = some Byte.slash) :
      (u.basePath ++ q).head? = some Byte.slash := by
    rcases normal.basePath with empty | ⟨first, -⟩
    · rwa [empty, List.nil_append]
    · rw [List.head?_append, first]
      rfl
  by_cases slash : q.head? = some Byte.slash
  · rw [u.target_of_slash slash]
    exact rooted slash
  · by_cases given : q = []
    · rw [given, target]
      rcases normal.basePath with empty | ⟨first, -⟩
      · rw [if_pos empty]
        rfl
      · rw [if_neg (by rintro empty; simp [empty] at first)]
        exact first
    · rw [u.target_of_not_slash given slash, u.target_of_slash rfl]
      exact rooted rfl

/-- What is read is a URL in normal form, which its printed text gives back, so that the printed
texts tell URLs apart. A path is joined to it with one slash at the seam. -/
theorem parsed_url_is_normal {text : Text} {u : Url} (accepted : parse text = .ok u) :
    (u.scheme = "http" ∧ u.host ≠ [] ∧ Byte.slash ∉ u.host ∧
      u.port ≠ [] ∧ u.port.all Byte.isDigit ∧ Byte.colon ∉ u.port ∧
      (u.basePath = [] ∨ u.basePath.head? = some Byte.slash) ∧
      u.basePath.getLast? ≠ some Byte.slash) ∧
    parse u.print = .ok u ∧
    (∀ other v, parse other = .ok v → (u = v ↔ u.print = v.print)) ∧
    ∀ q, (u.target q).head? = some Byte.slash ∧
      (q ≠ [] → q.head? ≠ some Byte.slash → u.target q = u.target (Byte.slash :: q)) ∧
      (q.head? = some Byte.slash → u.target q = u.basePath ++ q) := by
  have normal := normal_of_parse accepted
  have back := parse_print normal
  refine ⟨⟨normal.scheme, normal.host_ne_nil, normal.slash_notMem_host, normal.port_ne_nil,
    normal.port_digits, normal.colon_notMem_port, normal.basePath.imp_right And.left,
    normal.getLast?_basePath⟩, back, fun other v also => ⟨congrArg print, fun same => ?_⟩,
    fun q => ⟨head?_target normal q, u.target_of_not_slash, u.target_of_slash⟩⟩
  rw [same, parse_print (normal_of_parse also)] at back
  exact (Except.ok.inj back).symm

/-- Two spellings of one URL, with colons in the host and slashes in the path. -/
theorem parsed_spellings :
    ∃ u : Url, parse "http://::1:08/a//b:2///" = .ok u ∧ parse "::1:08/a//b:2/" = .ok u ∧
      u.print = "http://::1:08/a//b:2" ∧ parse u.print = .ok u ∧
      u.target "//c" = "/a//b:2//c" ∧ u.target "c" = "/a//b:2/c" := by
  let u : Url := { host := "::1", port := "08", basePath := "/a//b:2" }
  have accepted : parse "http://::1:08/a//b:2///" = .ok u := rfl
  obtain ⟨-, back, -, joins⟩ := parsed_url_is_normal accepted
  have bare := (joins "c").2.1 (by decide) (by decide)
  exact ⟨u, accepted, rfl, rfl, back, (joins "//c").2.2 rfl,
    bare.trans ((joins "/c").2.2 rfl)⟩

end ProviderHost.Url
