import ProviderHost.Proofs.PortArgument
import ProviderHost.Proofs.Settings
import ProviderHost.Proofs.Url

/-!
# Ports

A port is read from an argument, from the environment and from a URL. The first two take a number
from 1 to 65535, with leading zeros or without. A URL takes every number, so that it agrees with
the others on ports only.
-/

namespace ProviderHost

def Lookup.only (variableName value : Text) : Lookup :=
  fun v => if v = variableName then some value else none

variable {s : Text} {p : Nat}

namespace PortArgument

theorem port?_find_flag_iff :
    (find ["--port", s]).port? = some p ↔ Text.toNat? s = some p ∧ 1 ≤ p ∧ p ≤ 65535 := by
  have given : portValue? ["--port", s] = some s := rfl
  rw [port?_find_iff, ← port?_eq_some_iff, given]
  exact ⟨fun ⟨_, same, read⟩ => Option.some.inj same ▸ read, fun read => ⟨s, rfl, read⟩⟩

end PortArgument

namespace Settings

theorem given?_only (given : s ≠ []) (variableName : Text) :
    given? (.only variableName s) variableName = some s := by
  simp [given?, Lookup.only, given]

theorem given?_only_other {variableName v : Text} (other : v ≠ variableName) :
    given? (.only variableName s) v = none := by
  simp [given?, Lookup.only, other]

theorem isMet_of_absent {env : Lookup} {n : NumericSetting}
    (absent : given? env n.variableName = none) : n.IsMet env := by
  intro raw given
  cases absent.symm.trans given

theorem bounds_of_port : ∀ n ∈ numeric, n.variableName = "TOOLHUB_DEFAULT_PORT" →
    n.least = 1 ∧ n.greatest = 65535 := by decide

/-- A port that is all the environment gives is accepted exactly if it is one. -/
theorem load_only_port_iff (given : s ≠ []) :
    (∃ settings, load (.only "TOOLHUB_DEFAULT_PORT" s) = .ok settings ∧
      settings.defaultPort = p) ↔ Text.toNat? s = some p ∧ 1 ≤ p ∧ p ≤ 65535 := by
  have itself := given?_only given "TOOLHUB_DEFAULT_PORT"
  have absent {v : Text} (other : v ≠ "TOOLHUB_DEFAULT_PORT") :=
    given?_only_other (s := s) other
  have meant_port {v : Nat} (read : Text.toNat? s = some v) :
      (meant (.only "TOOLHUB_DEFAULT_PORT" s)).defaultPort = v := by
    simp only [meant, number?, itself, Option.bind_some, read, Option.getD_some]
  constructor
  · rintro ⟨settings, loaded, rfl⟩
    obtain ⟨accepts, rfl⟩ := load_eq_ok_iff.mp loaded
    have numbers := accepts.numbers
    simp only [numeric, List.forall_mem_cons] at numbers
    obtain ⟨-, -, -, -, -, -, -, met, -⟩ := numbers
    obtain ⟨v, read, least, greatest⟩ := met s itself
    rw [meant_port read]
    exact ⟨read, least, greatest⟩
  · rintro ⟨read, least, greatest⟩
    have usual {v : Text} (other : v ≠ "TOOLHUB_DEFAULT_PORT") :
        number? (.only "TOOLHUB_DEFAULT_PORT" s) v = none := by
      rw [number?, absent other, Option.bind_none]
    have accepts : Accepts (.only "TOOLHUB_DEFAULT_PORT" s) := by
      refine ⟨fun n member => ?_, ?_, fun raw level => ?_⟩
      · by_cases port : n.variableName = "TOOLHUB_DEFAULT_PORT"
        · obtain ⟨lower, upper⟩ := bounds_of_port n member port
          intro raw here
          rw [port] at here
          cases itself.symm.trans here
          exact ⟨p, read, by omega, by omega⟩
        · exact isMet_of_absent (absent port)
      · simp only [meant, usual (v := "TOOLHUB_PROBE_INTERVAL_MS") (by decide),
          usual (v := "TOOLHUB_PROBE_WINDOW_MS") (by decide)]
        decide
      · cases (absent (by decide)).symm.trans level
    exact ⟨_, load_of_accepted accepts, meant_port read⟩

end Settings

namespace Url

/-- The URL of a host and a port is read unless the port is no number. -/
theorem parse_authority_iff {host : Text} {u : Url} (named : host ≠ [])
    (noSlash : Byte.slash ∉ host ++ Byte.colon :: s) (noColon : Byte.colon ∉ s) :
    parse ("http://" ++ host ++ ":" ++ s) = .ok u ↔
      u = { host := host, port := s } ∧ s ≠ [] ∧ s.all Byte.isDigit := by
  have whole : ("http://" ++ host ++ ":" ++ s : Text) =
      "http" ++ ("://" ++ (host ++ Byte.colon :: s)) := by simp [Text.ofString]
  have scheme : splitScheme ("http://" ++ host ++ ":" ++ s) =
      (("http" : Text), host ++ Byte.colon :: s) := by
    rw [whole]
    rfl
  have path : splitPath (host ++ Byte.colon :: s) = (host ++ Byte.colon :: s, []) := by
    have cuts := splitPath_append noSlash (.inl rfl)
    rwa [List.append_nil] at cuts
  have port : splitPort (host ++ Byte.colon :: s) = (host, s) := by
    rw [splitPort, Text.cutLast?_of_not_mem host noColon, Option.getD_some]
  rw [parse_eq_ok_iff]
  constructor
  · rintro ⟨rest, authority, splits, -, cuts, ends, -, given, digits⟩
    obtain ⟨same, rfl⟩ := Prod.mk.inj (scheme.symm.trans splits)
    obtain ⟨rfl, empty⟩ := Prod.mk.inj (path.symm.trans cuts)
    obtain ⟨rfl, rfl⟩ := Prod.mk.inj (port.symm.trans ends)
    obtain ⟨scheme, host, port, basePath⟩ := u
    cases same
    cases empty
    exact ⟨rfl, given, digits⟩
  · rintro ⟨rfl, given, digits⟩
    exact ⟨_, _, scheme, rfl, path, port, named, given, digits⟩

theorem parse_port_iff (noSlash : Byte.slash ∉ s) (noColon : Byte.colon ∉ s) :
    (∃ u, parse ("http://h:" ++ s) = .ok u ∧ Text.toNat? u.port = some p) ↔
      Text.toNat? s = some p := by
  have whole : ("http://h:" ++ s : Text) = "http://" ++ "h" ++ ":" ++ s := by
    simp [Text.ofString]
  have apart : Byte.slash ∉ ("h" : Text) ++ Byte.colon :: s := by
    intro member
    have cases : Byte.slash = 104 ∨ Byte.slash = Byte.colon ∨ Byte.slash ∈ s := by
      simpa [Text.ofString] using member
    rcases cases with h | colon | later
    · exact absurd h (by decide)
    · exact absurd colon (by decide)
    · exact noSlash later
  rw [whole]
  constructor
  · rintro ⟨u, accepted, read⟩
    obtain ⟨rfl, -⟩ := (parse_authority_iff (by decide) apart noColon).mp accepted
    exact read
  · intro read
    obtain ⟨number, -⟩ := Text.toNat?_eq_some_iff.mp read
    exact ⟨_, (parse_authority_iff (by decide) apart noColon).mpr ⟨rfl, number⟩, read⟩

end Url

/-- The arguments and the environment take the same texts for the same port, and none of them for
anything else. A URL takes those too, and also a number that is no port. -/
theorem ports_are_read_alike (given : s ≠ []) (noSlash : Byte.slash ∉ s)
    (noColon : Byte.colon ∉ s) (p : Nat) :
    ((PortArgument.find ["--port", s]).port? = some p ↔
      ∃ settings, Settings.load (.only "TOOLHUB_DEFAULT_PORT" s) = .ok settings ∧
        settings.defaultPort = p) ∧
    ((PortArgument.find ["--port", s]).port? = some p ↔
      (∃ u, Url.parse ("http://h:" ++ s) = .ok u ∧ Text.toNat? u.port = some p) ∧
        1 ≤ p ∧ p ≤ 65535) ∧
    ((∃ u, Url.parse ("http://h:" ++ s) = .ok u ∧ Text.toNat? u.port = some p) ↔
      Text.toNat? s = some p) ∧
    (∀ args, (PortArgument.find args).port? = some p → 1 ≤ p ∧ p ≤ 65535) ∧
    ∀ env settings, Settings.load env = .ok settings →
      1 ≤ settings.defaultPort ∧ settings.defaultPort ≤ 65535 := by
  have argument := PortArgument.port?_find_flag_iff (s := s) (p := p)
  have setting := Settings.load_only_port_iff (p := p) given
  have url := Url.parse_port_iff (p := p) noSlash noColon
  refine ⟨argument.trans setting.symm, ?_, url, fun args found => ?_, fun env settings loaded => ?_⟩
  · rw [url]
    exact argument
  · obtain ⟨value, -, read⟩ := PortArgument.port?_find_iff.mp found
    exact (port?_eq_some_iff.mp read).2
  · obtain ⟨accepts, rfl⟩ := Settings.load_eq_ok_iff.mp loaded
    exact (Settings.inRange_meant accepts).defaultPort

/-- A port with zeros in front. -/
theorem padded_port_is_read_alike :
    (PortArgument.find ["--port", "00000000008080"]).port? = some 8080 ∧
    (∃ settings, Settings.load (.only "TOOLHUB_DEFAULT_PORT" "00000000008080") = .ok settings ∧
      settings.defaultPort = 8080) ∧
    ∃ u, Url.parse "http://h:00000000008080" = .ok u ∧ Text.toNat? u.port = some 8080 := by
  have found : (PortArgument.find ["--port", "00000000008080"]).port? = some 8080 := by decide
  obtain ⟨setting, url, -⟩ := ports_are_read_alike (s := "00000000008080") (by decide) (by decide)
    (by decide) 8080
  exact ⟨found, setting.mp found, (url.mp found).1⟩

/-- A number that is no port is taken in a URL, and nowhere else. -/
theorem url_takes_what_is_no_port :
    ("70000" : Text) ≠ [] ∧ Byte.slash ∉ ("70000" : Text) ∧ Byte.colon ∉ ("70000" : Text) ∧
    (∃ u, Url.parse "http://h:70000" = .ok u ∧ Text.toNat? u.port = some 70000) ∧
    (PortArgument.find ["--port", "70000"]).port? ≠ some 70000 ∧
    ¬∃ settings, Settings.load (.only "TOOLHUB_DEFAULT_PORT" "70000") = .ok settings ∧
      settings.defaultPort = 70000 := by
  refine ⟨by decide, by decide, by decide, ⟨_, rfl, by decide⟩, by decide, fun accepted => ?_⟩
  have port := (Settings.load_only_port_iff (by decide)).mp accepted
  omega

end ProviderHost
