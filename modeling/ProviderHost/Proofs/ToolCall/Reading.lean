import ProviderHost.Proofs.ToolCall.ObjectSpans

/-!
# What is outside of strings

Which bytes of a text are outside of strings is fixed by where strings open and end, and where they
open by the braces outside of strings in front of them. There is one reading of this kind
(`IsReading.unique`), and it is the scanner's (`Scan.isReading_marking`).
-/

namespace ProviderHost

/-- A choice of the bytes of a text by their offsets. -/
abbrev Marking := Nat → Bool

namespace Marking

variable (outside : Marking) (t : Text)

/-- Whether a byte is chosen and is `b`. -/
def Shows (b : UInt8) (i : Nat) : Prop := outside i ∧ t[i]? = some b

instance (b : UInt8) : DecidablePred (outside.Shows t b) :=
  fun _ => inferInstanceAs (Decidable (_ ∧ _))

/-- How many braces are open in front of an offset. Where none is open a brace closes nothing. -/
def depth : Nat → Nat
  | 0 => 0
  | i + 1 =>
    if outside.Shows t Byte.openBrace i then depth i + 1
    else if outside.Shows t Byte.closeBrace i then depth i - 1
    else depth i

/-- A quote opens a string where a brace is open. -/
def OpensString (q : Nat) : Prop := outside.Shows t Byte.quote q ∧ 0 < outside.depth t q

end Marking

/-- How many backslashes stand directly in front of `e` in the string that opened at `q`. -/
def backslashes (t : Text) (q e : Nat) : Nat :=
  (((t.take e).drop (q + 1)).reverse.takeWhile (· = Byte.backslash)).length

/-- The string that opened at `q` is at its end by the quote at `e`, if not at an earlier one. -/
def EndsString (t : Text) (q e : Nat) : Prop :=
  q < e ∧ t[e]? = some Byte.quote ∧ backslashes t q e % 2 = 0

/-- Outside of strings are the bytes in front of which all strings have ended that opened there. -/
def IsReading (t : Text) (outside : Marking) : Prop :=
  ∀ i ≤ t.length, outside i ↔ ∀ q < i, outside.OpensString t q → ∃ e < i, EndsString t q e

/-! ### There is one reading -/

theorem depth_congr {t : Text} {outside other : Marking} {i : Nat}
    (same : ∀ n < i, other n = outside n) : other.depth t i = outside.depth t i := by
  induction i with
  | zero => rfl
  | succ i ih =>
    have shows (b : UInt8) : other.Shows t b i ↔ outside.Shows t b i := by
      rw [Marking.Shows, same i (Nat.lt_succ_self i)]
      rfl
    unfold Marking.depth
    rw [ih fun n before => same n (by omega)]
    simp only [shows]

theorem IsReading.unique {t : Text} {outside other : Marking} (h : IsReading t outside)
    (h' : IsReading t other) : ∀ i ≤ t.length, other i = outside i := by
  intro i
  induction i using Nat.strongRecOn with
  | ind i ih =>
    intro bound
    have opens (q : Nat) (before : q < i) :
        other.OpensString t q ↔ outside.OpensString t q := by
      have same (n : Nat) (le : n ≤ q) : other n = outside n := ih n (by omega) (by omega)
      unfold Marking.OpensString Marking.Shows
      rw [same q (Nat.le_refl _), depth_congr fun n lt => same n (by omega)]
    rw [Bool.eq_iff_iff, h i bound, h' i bound]
    exact forall₂_congr fun q before => imp_congr_left (opens q before)

/-! ### Backslashes -/

section

variable {t : Text} {b : UInt8} {k q : Nat}

theorem backslashes_start : backslashes t q (q + 1) = 0 := by
  have none : (t.take (q + 1)).drop (q + 1) = [] := List.drop_eq_nil_of_le (List.length_take_le _ _)
  rw [backslashes, none]
  rfl

theorem backslashes_succ (inside : q < k) (here : t[k]? = some b) :
    backslashes t q (k + 1) = if b = Byte.backslash then backslashes t q k + 1 else 0 := by
  obtain ⟨bound, -⟩ := List.getElem?_eq_some_iff.mp here
  have split : (t.take (k + 1)).drop (q + 1) = (t.take k).drop (q + 1) ++ [b] := by
    rw [List.take_add_one, here, List.drop_append_of_le_length (by rw [List.length_take]; omega)]
    rfl
  unfold backslashes
  rw [split, List.reverse_append, List.reverse_singleton, List.singleton_append,
    List.takeWhile_cons]
  by_cases same : b = Byte.backslash <;> simp [same]

end

/-! ### The scanner's reading -/

namespace Scan

/-- What the scanner does with the byte `b` at offset `i`. -/
inductive Stepped (i : Nat) (b : UInt8) (s : Scan) : Scan → Prop
  | opens (plain : s.mode = .plain) (brace : b = Byte.openBrace) :
      Stepped i b s { s with opened := i :: s.opened }
  | closes {o : Nat} {outer : List Nat} (plain : s.mode = .plain) (brace : b = Byte.closeBrace)
      (inside : s.opened = o :: outer) :
      Stepped i b s { s with opened := outer, closed := s.closed ++ [(o, i)] }
  | quotes (plain : s.mode = .plain) (quote : b = Byte.quote) (inside : s.opened ≠ []) :
      Stepped i b s { s with mode := .inString }
  | passes (plain : s.mode = .plain) (noOpen : b ≠ Byte.openBrace)
      (outside : b = Byte.closeBrace ∨ b = Byte.quote → s.opened = []) : Stepped i b s s
  | escapes (inString : s.mode = .inString) (backslash : b = Byte.backslash) :
      Stepped i b s { s with mode := .escaped }
  | unquotes (inString : s.mode = .inString) (quote : b = Byte.quote) :
      Stepped i b s { s with mode := .plain }
  | quoted (inString : s.mode = .inString) (noBackslash : b ≠ Byte.backslash)
      (noQuote : b ≠ Byte.quote) : Stepped i b s s
  | escaped (escaped : s.mode = .escaped) : Stepped i b s { s with mode := .inString }

theorem step_stepped (i : Nat) (b : UInt8) (s : Scan) : Stepped i b s (s.step i b) := by
  obtain ⟨mode, opened, closed⟩ := s
  unfold step
  cases mode with
  | plain =>
    unfold stepPlain
    dsimp only
    by_cases brace : b = Byte.openBrace
    · rw [if_pos brace]
      exact .opens rfl brace
    rw [if_neg brace]
    cases opened with
    | nil => exact .passes rfl brace fun _ => rfl
    | cons o outer =>
      dsimp only
      by_cases quote : b = Byte.quote
      · rw [if_pos quote]
        exact .quotes rfl quote (List.cons_ne_nil o outer)
      rw [if_neg quote]
      by_cases closing : b = Byte.closeBrace
      · rw [if_pos closing]
        exact .closes rfl closing rfl
      rw [if_neg closing]
      exact .passes rfl brace fun h => absurd h (not_or.mpr ⟨closing, quote⟩)
  | inString =>
    dsimp only
    by_cases backslash : b = Byte.backslash
    · rw [if_pos backslash]
      exact .escapes rfl backslash
    rw [if_neg backslash]
    by_cases quote : b = Byte.quote
    · rw [if_pos quote]
      exact .unquotes rfl quote
    rw [if_neg quote]
    exact .quoted rfl backslash quote
  | escaped => exact .escaped rfl

inductive BraceStep (i : Nat) (b : UInt8) (s s' : Scan) : Prop
  | opens (plain : s.mode = .plain) (brace : b = Byte.openBrace)
      (opened : s'.opened = i :: s.opened) (closed : s'.closed = s.closed)
  | closes {o : Nat} {outer : List Nat} (plain : s.mode = .plain) (brace : b = Byte.closeBrace)
      (inside : s.opened = o :: outer) (opened : s'.opened = outer)
      (closed : s'.closed = s.closed ++ [(o, i)])
  | keeps (noOpen : s.mode = .plain → b ≠ Byte.openBrace)
      (outside : s.mode = .plain → b = Byte.closeBrace → s.opened = [])
      (opened : s'.opened = s.opened) (closed : s'.closed = s.closed)

theorem Stepped.braces {i : Nat} {b : UInt8} {s s' : Scan} (h : Stepped i b s s') :
    BraceStep i b s s' := by
  have other {m : ScanMode} (mode : s.mode = m) (inside : m ≠ .plain) : s.mode ≠ .plain :=
    mode ▸ inside
  cases h with
  | opens plain brace => exact .opens plain brace rfl rfl
  | closes plain brace inside => exact .closes plain brace inside rfl rfl
  | quotes plain quote inside =>
    subst quote
    exact .keeps (fun _ => by decide) (fun _ brace => absurd brace (by decide)) rfl rfl
  | passes plain noOpen outside =>
    exact .keeps (fun _ => noOpen) (fun _ brace => outside (.inl brace)) rfl rfl
  | escapes inString backslash =>
    have h := other inString (by decide)
    exact .keeps (fun plain => absurd plain h) (fun plain => absurd plain h) rfl rfl
  | unquotes inString quote =>
    have h := other inString (by decide)
    exact .keeps (fun plain => absurd plain h) (fun plain => absurd plain h) rfl rfl
  | quoted inString noBackslash noQuote =>
    have h := other inString (by decide)
    exact .keeps (fun plain => absurd plain h) (fun plain => absurd plain h) rfl rfl
  | escaped escaped =>
    have h := other escaped (by decide)
    exact .keeps (fun plain => absurd plain h) (fun plain => absurd plain h) rfl rfl

inductive ModeStep (b : UInt8) (s s' : Scan) : Prop
  | stays (plain : s.mode = .plain) (outside : b = Byte.quote → s.opened = [])
      (mode : s'.mode = .plain)
  | enters (plain : s.mode = .plain) (quote : b = Byte.quote) (inside : s.opened ≠ [])
      (mode : s'.mode = .inString)
  | leaves (inString : s.mode = .inString) (quote : b = Byte.quote) (mode : s'.mode = .plain)
  | remains (inside : s.mode ≠ .plain) (noEnd : s.mode = .inString → b ≠ Byte.quote)
      (mode : s'.mode ≠ .plain)
      (escapes : s'.mode = .escaped ↔ s.mode ≠ .escaped ∧ b = Byte.backslash)

theorem Stepped.strings {i : Nat} {b : UInt8} {s s' : Scan} (h : Stepped i b s s') :
    ModeStep b s s' := by
  cases h with
  | opens plain brace =>
    exact .stays plain (fun quote => absurd (brace.symm.trans quote) (by decide)) plain
  | closes plain brace =>
    exact .stays plain (fun quote => absurd (brace.symm.trans quote) (by decide)) plain
  | quotes plain quote inside => exact .enters plain quote inside rfl
  | passes plain _ outside => exact .stays plain (fun quote => outside (.inr quote)) plain
  | escapes inString backslash =>
    refine .remains (by simp [inString]) (fun _ => ?_) (by simp) (by simp [inString, backslash])
    rw [backslash]
    decide
  | unquotes inString quote => exact .leaves inString quote rfl
  | quoted inString noBackslash noQuote =>
    exact .remains (by simp [inString]) (fun _ => noQuote) (by simp [inString])
      (by simp [inString, noBackslash])
  | escaped escaped =>
    exact .remains (by simp [escaped]) (by simp [escaped]) (by simp) (by simp [escaped])

/-- The scanner in front of an offset. -/
def before (t : Text) (i : Nat) : Scan := run 0 {} (t.take i)

/-- The bytes that the scanner takes to be outside of strings. -/
def marking (t : Text) : Marking := fun i => decide ((before t i).mode = .plain)

variable {t : Text} {b : UInt8} {i j k n o : Nat}

theorem before_stepped (here : t[i]? = some b) : Stepped i b (before t i) (before t (i + 1)) := by
  obtain ⟨bound, -⟩ := List.getElem?_eq_some_iff.mp here
  have length : (t.take i).length = i := by
    rw [List.length_take]
    omega
  have next : before t (i + 1) = (before t i).step i b := by
    rw [before, List.take_add_one, here, run_append, length, Nat.zero_add]
    rfl
  rw [next]
  exact step_stepped i b (before t i)

theorem marking_iff : marking t i ↔ (before t i).mode = .plain := decide_eq_true_iff

theorem shows_iff {c : UInt8} (here : t[i]? = some b) :
    (marking t).Shows t c i ↔ (before t i).mode = .plain ∧ b = c := by
  rw [Marking.Shows, marking_iff, here, Option.some.injEq]

theorem depth_marking (bound : i ≤ t.length) :
    (marking t).depth t i = (before t i).opened.length := by
  induction i with
  | zero => rfl
  | succ i ih =>
    have here := List.getElem?_eq_getElem (show i < t.length from bound)
    unfold Marking.depth
    simp only [shows_iff here, ih (by omega)]
    cases (before_stepped here).braces with
    | opens plain brace opened => rw [if_pos ⟨plain, brace⟩, opened, List.length_cons]
    | closes plain brace inside opened =>
      have noOpen : ¬((before t i).mode = .plain ∧ t[i] = Byte.openBrace) := by
        rw [brace]
        rintro ⟨-, ⟨⟩⟩
      rw [if_neg noOpen, if_pos ⟨plain, brace⟩, opened, inside, List.length_cons,
        Nat.add_sub_cancel]
    | keeps noOpen outside opened =>
      rw [if_neg fun h => noOpen h.1 h.2, opened]
      split
      · rename_i h
        rw [outside h.1 h.2]
        rfl
      · rfl

/-! ### Strings -/

/-- The scanner is in the string that opened at `q`, behind that many backslashes. -/
structure InString (t : Text) (q i : Nat) : Prop where
  inside : q < i
  opened : (marking t).OpensString t q
  unended : ∀ e < i, ¬EndsString t q e
  escaped : (before t i).mode = .escaped ↔ backslashes t q i % 2 = 1

/-- What the scanner's mode says in front of an offset. -/
structure ModeTells (t : Text) (i : Nat) : Prop where
  outside : (before t i).mode = .plain →
    ∀ q < i, (marking t).OpensString t q → ∃ e < i, EndsString t q e
  inside : (before t i).mode ≠ .plain → ∃ q, InString t q i

theorem opensString_iff (here : t[i]? = some b) :
    (marking t).OpensString t i ↔
      (before t i).mode = .plain ∧ b = Byte.quote ∧ (before t i).opened ≠ [] := by
  obtain ⟨bound, -⟩ := List.getElem?_eq_some_iff.mp here
  rw [Marking.OpensString, shows_iff here, depth_marking (Nat.le_of_lt bound), List.length_pos_iff,
    and_assoc]

theorem endsString_iff (here : t[i]? = some b) :
    EndsString t o i ↔ o < i ∧ b = Byte.quote ∧ backslashes t o i % 2 = 0 := by
  rw [EndsString, here, Option.some.injEq]

theorem InString.succ {q : Nat} (h : InString t q i) (here : t[i]? = some b)
    (noEnd : (before t i).mode ≠ .escaped → b ≠ Byte.quote)
    (escapes : (before t (i + 1)).mode = .escaped ↔
      (before t i).mode ≠ .escaped ∧ b = Byte.backslash) : InString t q (i + 1) where
  inside := Nat.lt_succ_of_lt h.inside
  opened := h.opened
  unended e earlier ends := by
    rcases Nat.lt_succ_iff_lt_or_eq.mp earlier with earlier | rfl
    · exact h.unended e earlier ends
    · obtain ⟨-, quote, even⟩ := (endsString_iff here).mp ends
      refine noEnd (fun escaped => ?_) quote
      have odd := h.escaped.mp escaped
      omega
  escaped := by
    rw [escapes, backslashes_succ h.inside here, Ne, h.escaped]
    split
    · rename_i backslash
      simp only [backslash, and_true]
      omega
    · rename_i other
      simp [other]

theorem InString.leave {q : Nat} (h : InString t q i) (here : t[i]? = some Byte.quote)
    (even : (before t i).mode ≠ .escaped) (told : ∀ n ≤ i, ModeTells t n) :
    ∀ p < i + 1, (marking t).OpensString t p → ∃ e < i + 1, EndsString t p e := by
  intro p earlier opens
  have plain {n : Nat} (opens : (marking t).OpensString t n) : (before t n).mode = .plain :=
    marking_iff.mp opens.1.1
  have inside := h.inside
  rcases Nat.lt_trichotomy p q with first | rfl | later
  · obtain ⟨e, ends, ended⟩ := (told q (by omega)).outside (plain h.opened) p first opens
    exact ⟨e, by omega, ended⟩
  · refine ⟨i, Nat.lt_succ_self i, (endsString_iff here).mpr ⟨inside, rfl, ?_⟩⟩
    have notOdd := mt h.escaped.mpr even
    omega
  · -- No other string opens before the one that opened at `q` has ended.
    obtain ⟨e, ends, ended⟩ := (told p (by omega)).outside (plain opens) q later h.opened
    exact absurd ended (h.unended e (by omega))

theorem modeTells_succ (told : ∀ n ≤ i, ModeTells t n) (here : t[i]? = some b) :
    ModeTells t (i + 1) := by
  obtain ⟨outside, inside⟩ := told i (Nat.le_refl _)
  cases (before_stepped here).strings with
  | stays plain noString mode =>
    refine ⟨fun _ q earlier opens => ?_, fun h => absurd mode h⟩
    rcases Nat.lt_succ_iff_lt_or_eq.mp earlier with earlier | rfl
    · obtain ⟨e, ends, ended⟩ := outside plain q earlier opens
      exact ⟨e, by omega, ended⟩
    · obtain ⟨-, quote, nonempty⟩ := (opensString_iff here).mp opens
      exact absurd (noString quote) nonempty
  | enters plain quote nonempty mode =>
    refine ⟨fun h => absurd (mode.symm.trans h) (by decide), fun _ => ⟨i, Nat.lt_succ_self i,
      (opensString_iff here).mpr ⟨plain, quote, nonempty⟩, fun e earlier ends => ?_, ?_⟩⟩
    · have behind := ends.1
      omega
    · rw [mode, backslashes_start]
      decide
  | leaves inString quote mode =>
    obtain ⟨q, within⟩ := inside (by simp [inString])
    exact ⟨fun _ => within.leave (quote ▸ here) (by simp [inString]) told, fun h => absurd mode h⟩
  | remains notPlain noEnd mode escapes =>
    obtain ⟨q, within⟩ := inside notPlain
    refine ⟨fun h => absurd h mode, fun _ => ⟨q, within.succ here (fun unescaped => ?_) escapes⟩⟩
    refine noEnd ?_
    cases h : (before t i).mode with
    | plain => exact absurd h notPlain
    | inString => rfl
    | escaped => exact absurd h unescaped

theorem modeTells (bound : i ≤ t.length) : ModeTells t i := by
  induction i using Nat.strongRecOn with
  | ind i ih =>
    cases i with
    | zero => exact ⟨fun _ q earlier => absurd earlier (Nat.not_lt_zero q), fun h => absurd rfl h⟩
    | succ i =>
      have here := List.getElem?_eq_getElem (show i < t.length from bound)
      exact modeTells_succ (fun n le => ih n (by omega) (by omega)) here

/-- The scanner takes those bytes to be outside of strings that are. -/
theorem isReading_marking (t : Text) : IsReading t (marking t) := by
  intro i bound
  obtain ⟨outside, inside⟩ := modeTells bound
  rw [marking_iff]
  refine ⟨outside, fun ended => Decidable.byContradiction fun notPlain => ?_⟩
  obtain ⟨q, within⟩ := inside notPlain
  obtain ⟨e, earlier, ends⟩ := ended q within.inside within.opened
  exact within.unended e earlier ends

end Scan

end ProviderHost
