import Mathlib.Data.Nat.Digits.Defs
import ProviderHost.PortArgument

/-!
# The first port argument

`Gives` says at which places of a list a port argument stands, in either of its spellings, and what
its text is. The first of them decides alone (`portValue?_eq_some_iff`), also when its text is no
port; a port is a number from 1 to 65535 in decimal digits, with zeros in front or without.
-/

namespace ProviderHost

namespace Text

/-- A text is a number in decimal digits, the last of which counts ones. -/
def Denotes (t : Text) (n : Nat) : Prop :=
  t ≠ [] ∧ (∀ b ∈ t, Byte.isDigit b) ∧ Nat.ofDigits 10 (t.reverse.map digitValue) = n

theorem digitsValue_eq_ofDigits (t : Text) :
    digitsValue t = Nat.ofDigits 10 (t.reverse.map digitValue) := by
  rw [Nat.ofDigits_eq_foldr, List.foldr_map, List.foldr_reverse, digitsValue]
  refine congrArg (fun f => t.foldl f 0) (funext fun n => funext fun b => ?_)
  rw [Nat.cast_id, Nat.add_comm]

theorem toNat?_eq_some_iff_denotes {t : Text} {n : Nat} : toNat? t = some n ↔ t.Denotes n := by
  rw [toNat?_eq_some_iff, digitsValue_eq_ofDigits, List.all_eq_true, and_assoc]
  exact Iff.rfl

end Text

variable {s : Text} {p : Nat}

theorem port?_eq_some_iff : port? s = some p ↔ Text.toNat? s = some p ∧ 1 ≤ p ∧ p ≤ 65535 := by
  have field : Text.wordCount 16 = 65536 := rfl
  have wide : Text.wordCount 32 = 4294967296 := rfl
  unfold port?
  constructor
  · intro accepted
    obtain ⟨n, word, kept⟩ := Option.bind_eq_some_iff.mp accepted
    obtain ⟨read, -⟩ := Text.toWord?_eq_some_iff.mp word
    split at kept
    · cases kept
    · rename_i within
      have whole : n % Text.wordCount 16 = n := Nat.mod_eq_of_lt (by omega)
      rw [whole] at kept
      cases kept
      exact ⟨read, by omega, by omega⟩
  · rintro ⟨read, least, greatest⟩
    have word : Text.toWord? 32 s = some p := Text.toWord?_eq_some_iff.mpr ⟨read, by omega⟩
    have whole : p % Text.wordCount 16 = p := Nat.mod_eq_of_lt (by omega)
    rw [word, Option.bind_some, if_neg (by omega), whole]

namespace PortArgument

theorem port?_find_iff {args : List Text} :
    (find args).port? = some p ↔
      ∃ value, portValue? args = some value ∧ ProviderHost.port? value = some p := by
  unfold find
  cases portValue? args with
  | none => exact ⟨nofun, fun ⟨_, given, _⟩ => nomatch given⟩
  | some value =>
    cases read : ProviderHost.port? value with
    | none => simp [PortArgument.port?, read]
    | some n => simp [PortArgument.port?, read]

/-! ### Places in a list -/

/-- At a place there is a port argument with a text: the flag with the text behind it in the list,
or both in one. -/
def Gives (args : List Text) (i : Nat) (value : Text) : Prop :=
  args[i]? = some (Text.ofString "--port") ∧ args[i + 1]? = some value ∨
    args[i]? = some ("--port=" ++ value)

def GivesFirst (args : List Text) (i : Nat) (value : Text) : Prop :=
  Gives args i value ∧ ∀ j < i, ∀ v, ¬Gives args j v

variable {a value : Text} {rest args : List Text} {i : Nat}

theorem not_gives_nil (i : Nat) (value : Text) : ¬Gives [] i value := by
  simp [Gives]

theorem gives_zero_iff :
    Gives (a :: rest) 0 value ↔
      a = Text.ofString "--port" ∧ rest.head? = some value ∨ a = "--port=" ++ value := by
  simp [Gives, List.head?_eq_getElem?]

def givenBy? (a : Text) (rest : List Text) : Option Text :=
  (if a = Text.ofString "--port" then rest.head? else none) <|> Text.after? "--port=" a

theorem after?_flag : Text.after? "--port=" (Text.ofString "--port") = none := by decide

theorem givenBy?_eq_some_iff : givenBy? a rest = some value ↔ Gives (a :: rest) 0 value := by
  rw [gives_zero_iff, givenBy?]
  by_cases flag : a = Text.ofString "--port"
  · have other : a ≠ "--port=" ++ value := fun same => by
      cases after?_flag.symm.trans (Text.after?_eq_some_iff.mpr (flag.symm.trans same))
    subst flag
    rw [if_pos rfl, after?_flag]
    cases rest.head? <;> simp [other]
  · rw [if_neg flag]
    refine Text.after?_eq_some_iff.trans ?_
    simp [flag]

theorem portValue?_cons (a : Text) (rest : List Text) :
    portValue? (a :: rest) = (givenBy? a rest <|> portValue? rest) := by
  unfold givenBy?
  by_cases flag : a = Text.ofString "--port"
  · subst flag
    cases rest <;> rfl
  · rw [portValue?, if_neg flag]
    · cases Text.after? "--port=" a <;> rfl
    · intro v tail same
      exact absurd (of_decide_eq_true same) flag

theorem portValue?_eq_some_iff : portValue? args = some value ↔ ∃ i, GivesFirst args i value := by
  induction args with
  | nil => exact ⟨nofun, fun ⟨i, given, _⟩ => absurd given (not_gives_nil i value)⟩
  | cons a rest ih =>
    rw [portValue?_cons]
    cases here : givenBy? a rest with
    | some v =>
      have given := givenBy?_eq_some_iff.mp here
      constructor
      · intro same
        cases same
        exact ⟨0, given, fun j before => absurd before (Nat.not_lt_zero j)⟩
      · rintro ⟨i, first, before⟩
        obtain rfl : i = 0 := by
          by_contra later
          exact before 0 (Nat.pos_of_ne_zero later) v given
        exact here.symm.trans (givenBy?_eq_some_iff.mpr first)
    | none =>
      have nothing (v : Text) : ¬Gives (a :: rest) 0 v := fun given => by
        cases here.symm.trans (givenBy?_eq_some_iff.mpr given)
      refine ih.trans ⟨fun ⟨i, first, before⟩ => ⟨i + 1, first, fun j earlier v => ?_⟩,
        fun ⟨i, first, before⟩ => ?_⟩
      · cases j with
        | zero => exact nothing v
        | succ j => exact before j (Nat.lt_of_succ_lt_succ earlier) v
      · cases i with
        | zero => exact absurd first (nothing value)
        | succ i => exact ⟨i, first, fun j earlier => before (j + 1) (Nat.succ_lt_succ earlier)⟩

theorem portValue?_eq_none_iff : portValue? args = none ↔ ∀ i value, ¬Gives args i value := by
  induction args with
  | nil => exact ⟨fun _ => not_gives_nil, fun _ => rfl⟩
  | cons a rest ih =>
    rw [portValue?_cons]
    constructor
    · intro nowhere i value given
      cases here : givenBy? a rest with
      | some v =>
        rw [here] at nowhere
        cases nowhere
      | none =>
        rw [here] at nowhere
        cases i with
        | zero => cases here.symm.trans (givenBy?_eq_some_iff.mpr given)
        | succ i => exact ih.mp nowhere i value given
    · intro never
      have here : givenBy? a rest = none := Option.eq_none_iff_forall_ne_some.mpr fun v given =>
        never 0 v (givenBy?_eq_some_iff.mp given)
      rw [here]
      exact ih.mpr fun i v => never (i + 1) v

/-! ### What is answered and reported -/

/-- A text is a port, in digits. -/
def IsPort (value : Text) (p : Nat) : Prop := value.Denotes p ∧ 1 ≤ p ∧ p ≤ 65535

theorem port?_eq_some_iff_isPort : ProviderHost.port? value = some p ↔ IsPort value p := by
  rw [port?_eq_some_iff, Text.toNat?_eq_some_iff_denotes, IsPort]

theorem port?_find_iff_first :
    (find args).port? = some p ↔ ∃ i value, GivesFirst args i value ∧ IsPort value p := by
  rw [port?_find_iff]
  constructor
  · rintro ⟨value, given, read⟩
    obtain ⟨i, first⟩ := portValue?_eq_some_iff.mp given
    exact ⟨i, value, first, port?_eq_some_iff_isPort.mp read⟩
  · rintro ⟨i, value, first, port⟩
    exact ⟨value, portValue?_eq_some_iff.mpr ⟨i, first⟩, port?_eq_some_iff_isPort.mpr port⟩

theorem find_of_isPort (first : GivesFirst args i value) (port : IsPort value p) :
    find args = .port p := by
  rw [find, portValue?_eq_some_iff.mpr ⟨i, first⟩]
  dsimp only
  rw [port?_eq_some_iff_isPort.mpr port]

theorem find_of_not_isPort (first : GivesFirst args i value) (never : ∀ p, ¬IsPort value p) :
    find args = .invalid value := by
  have unread : ProviderHost.port? value = none :=
    Option.eq_none_iff_forall_ne_some.mpr fun p read => never p (port?_eq_some_iff_isPort.mp read)
  rw [find, portValue?_eq_some_iff.mpr ⟨i, first⟩]
  dsimp only
  rw [unread]

theorem find_of_never (never : ∀ i value, ¬Gives args i value) : find args = .absent := by
  rw [find, portValue?_eq_none_iff.mpr never]

/-- The first port argument decides alone. Its text is the port, in decimal digits, or it is
reported, once, and there is none, whatever else the arguments hold. Without a port argument there is
neither. -/
theorem first_port_argument_decides (args : List Text) (j : Journal) :
    (∀ p, (find args).port? = some p ↔ ∃ i value, GivesFirst args i value ∧ IsPort value p) ∧
    (∀ i value, GivesFirst args i value →
      (∀ p, IsPort value p → (find args).report j = j) ∧
      ((∀ p, ¬IsPort value p) → (find args).port? = none ∧
        (find args).report j = j.warn ("ignoring invalid --port value '" ++ value ++ "'"))) ∧
    ((∀ i value, ¬Gives args i value) → (find args).port? = none ∧ (find args).report j = j) ∧
    ∀ fallback, 1 ≤ fallback → fallback ≤ 65535 →
      1 ≤ portOr fallback args ∧ portOr fallback args ≤ 65535 := by
  refine ⟨fun p => port?_find_iff_first, fun i value first => ⟨fun p port => ?_, fun never => ?_⟩,
    fun never => ?_, fun fallback least greatest => ?_⟩
  · rw [find_of_isPort first port]
    rfl
  · rw [find_of_not_isPort first never]
    exact ⟨rfl, rfl⟩
  · rw [find_of_never never]
    exact ⟨rfl, rfl⟩
  · unfold portOr
    cases found : (find args).port? with
    | none => exact ⟨least, greatest⟩
    | some p =>
      obtain ⟨i, value, first, read, range⟩ := port?_find_iff_first.mp found
      exact range

/-- A flag is followed by what looks like another one: that is its text, and the valid port behind
it does not count. -/
theorem flag_for_a_port_is_reported :
    GivesFirst (["--port", "--port=080", "--port=80"].map Text.ofString) 0 "--port=080" ∧
    (∀ p, ¬IsPort "--port=080" p) ∧
    (find (["--port", "--port=080", "--port=80"].map Text.ofString)).port? = none ∧
    (find (["--port", "--port=080", "--port=80"].map Text.ofString)).report {} =
      ({} : Journal).warn "ignoring invalid --port value '--port=080'" := by
  have first : GivesFirst (["--port", "--port=080", "--port=80"].map Text.ofString) 0 "--port=080" :=
    ⟨.inl ⟨rfl, rfl⟩, fun j before => absurd before (Nat.not_lt_zero j)⟩
  have never : ∀ p, ¬IsPort "--port=080" p := by
    rintro p ⟨⟨-, digits, -⟩, -⟩
    exact absurd (digits 45 (by decide)) (by decide)
  obtain ⟨-, decides, -, -⟩ :=
    first_port_argument_decides (["--port", "--port=080", "--port=80"].map Text.ofString) {}
  obtain ⟨none', reported⟩ := (decides 0 "--port=080" first).2 never
  exact ⟨first, never, none', reported⟩

/-- Zeros in front of a port do not count, however many there are. -/
example : (find [Text.ofString "--verbose", Text.ofString "--port=000000000008080"]).port? =
    some 8080 := by decide

end PortArgument

end ProviderHost
