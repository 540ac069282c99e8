import Mathlib.Data.Nat.Count
import ProviderHost.Proofs.ToolCall.Reading

/-!
# Braces that belong together

An opening and a closing brace make a span if and only if both are outside of strings and the braces
between them are balanced: of those on the scanner's stack no more were closed since than opened.
-/

namespace ProviderHost

/-- How many chosen bytes strictly between two offsets are `b`. -/
def Marking.between (outside : Marking) (t : Text) (b : UInt8) (i k : Nat) : Nat :=
  Nat.count (fun n => i < n ∧ outside.Shows t b n) k

/-- A brace that opens and the one that closes it: the braces between them are balanced. -/
structure Matched (t : Text) (outside : Marking) (i j : Nat) : Prop where
  opens : outside.Shows t Byte.openBrace i
  closes : outside.Shows t Byte.closeBrace j
  before : i < j
  level : outside.between t Byte.openBrace i j = outside.between t Byte.closeBrace i j
  covered : ∀ k ≤ j, outside.between t Byte.closeBrace i k ≤ outside.between t Byte.openBrace i k

section

variable {outside : Marking} {t : Text} {b : UInt8} {i k : Nat}

theorem between_of_le (near : k ≤ i + 1) : outside.between t b i k = 0 := by
  refine Nat.count_of_forall_not fun n before h => ?_
  omega

theorem between_succ (inside : i < k) :
    outside.between t b i (k + 1) =
      outside.between t b i k + if outside.Shows t b k then 1 else 0 := by
  simp only [Marking.between, Nat.count_succ, inside, true_and]

theorem Marking.Shows.not_both (opens : outside.Shows t Byte.openBrace i) :
    ¬outside.Shows t Byte.closeBrace i := fun closes =>
  absurd (Option.some.inj (opens.2.symm.trans closes.2)) (by decide)

end

namespace Scan

variable {t : Text} {b : UInt8} {i j k n o : Nat}

theorem between_marking_succ {c : UInt8} (inside : i < k) (here : t[k]? = some b) :
    (marking t).between t c i (k + 1) =
      (marking t).between t c i k + if (before t k).mode = .plain ∧ b = c then 1 else 0 := by
  rw [between_succ inside]
  simp only [shows_iff here]

/-- A brace that is open stands behind those that are open in front of it, and what was closed
since was opened since. -/
structure IsOpen (t : Text) (o : Nat) (extra outer : List Nat) (k : Nat) : Prop where
  earlier : o < k
  opens : (marking t).Shows t Byte.openBrace o
  outer : (before t o).opened = outer
  covered : ∀ n ≤ k,
    (marking t).between t Byte.closeBrace o n ≤ (marking t).between t Byte.openBrace o n
  level : extra.length + (marking t).between t Byte.closeBrace o k =
    (marking t).between t Byte.openBrace o k

theorem IsOpen.start (opens : (marking t).Shows t Byte.openBrace o) :
    IsOpen t o [] (before t o).opened (o + 1) where
  earlier := Nat.lt_succ_self o
  opens := opens
  outer := rfl
  covered n le := by
    rw [between_of_le le]
    exact Nat.zero_le _
  level := by rw [between_of_le le_rfl, between_of_le le_rfl, List.length_nil]

theorem IsOpen.next {extra next outer : List Nat} (h : IsOpen t o extra outer k)
    (level : next.length + (marking t).between t Byte.closeBrace o (k + 1) =
      (marking t).between t Byte.openBrace o (k + 1)) : IsOpen t o next outer (k + 1) where
  earlier := Nat.lt_succ_of_lt h.earlier
  opens := h.opens
  outer := h.outer
  covered n le := by
    obtain le | rfl : n ≤ k ∨ n = k + 1 := by omega
    · exact h.covered n le
    · omega
  level := level

theorem IsOpen.push {extra outer : List Nat} (h : IsOpen t o extra outer k)
    (here : t[k]? = some b) (plain : (before t k).mode = .plain) (brace : b = Byte.openBrace) :
    IsOpen t o (k :: extra) outer (k + 1) := by
  subst brace
  have level := h.level
  refine h.next ?_
  rw [between_marking_succ h.earlier here, between_marking_succ h.earlier here,
    if_neg fun same => absurd same.2 (by decide), if_pos ⟨plain, rfl⟩, List.length_cons]
  omega

theorem IsOpen.pop {extra outer : List Nat} (h : IsOpen t o (n :: extra) outer k)
    (here : t[k]? = some b) (plain : (before t k).mode = .plain) (brace : b = Byte.closeBrace) :
    IsOpen t o extra outer (k + 1) := by
  subst brace
  have level := h.level
  rw [List.length_cons] at level
  refine h.next ?_
  rw [between_marking_succ h.earlier here, between_marking_succ h.earlier here,
    if_pos ⟨plain, rfl⟩, if_neg fun same => absurd same.2 (by decide)]
  omega

theorem IsOpen.keep {extra outer : List Nat} (h : IsOpen t o extra outer k)
    (here : t[k]? = some b) (noOpen : (before t k).mode = .plain → b ≠ Byte.openBrace)
    (noClose : (before t k).mode = .plain → b ≠ Byte.closeBrace) :
    IsOpen t o extra outer (k + 1) := by
  refine h.next ?_
  rw [between_marking_succ h.earlier here, between_marking_succ h.earlier here,
    if_neg fun same => noClose same.1 same.2, if_neg fun same => noOpen same.1 same.2]
  exact h.level

theorem isOpen_of_opened {extra outer : List Nat} (bound : k ≤ t.length)
    (stack : (before t k).opened = extra ++ o :: outer) : IsOpen t o extra outer k := by
  induction k generalizing extra with
  | zero => exact absurd stack (by cases extra <;> rintro ⟨⟩)
  | succ k ih =>
    have here := List.getElem?_eq_getElem (show k < t.length from bound)
    cases (before_stepped here).braces with
    | opens plain brace opened =>
      rw [opened] at stack
      cases extra with
      | nil =>
        obtain ⟨rfl, rfl⟩ := List.cons.inj stack
        exact .start ((shows_iff here).mpr ⟨plain, brace⟩)
      | cons n extra =>
        obtain ⟨rfl, rest⟩ := List.cons.inj stack
        exact (ih (by omega) rest).push here plain brace
    | @closes n inner plain brace inside opened =>
      have before : (before t k).opened = (n :: extra) ++ o :: outer := by
        rw [inside, ← opened, stack]
        rfl
      exact (ih (by omega) before).pop here plain brace
    | keeps noOpen outside opened =>
      rw [opened] at stack
      refine (ih (by omega) stack).keep here noOpen fun plain brace => ?_
      rw [outside plain brace] at stack
      exact absurd stack (by cases extra <;> rintro ⟨⟩)

theorem isOpen_of_head? (bound : k ≤ t.length) (top : (before t k).opened.head? = some o) :
    (before t k).opened = o :: (before t o).opened ∧ IsOpen t o [] (before t o).opened k := by
  obtain ⟨outer, stack⟩ := List.head?_eq_some_iff.mp top
  have isOpen : IsOpen t o [] outer k := isOpen_of_opened bound stack
  obtain rfl := isOpen.outer
  exact ⟨stack, isOpen⟩

/-- As long as no more braces are closed than were opened since, a brace stays on the stack. -/
theorem opened_of_covered (opens : (marking t).Shows t Byte.openBrace o) (later : o < k)
    (bound : k ≤ t.length)
    (covered : ∀ n ≤ k,
      (marking t).between t Byte.closeBrace o n ≤ (marking t).between t Byte.openBrace o n) :
    ∃ extra, (before t k).opened = extra ++ o :: (before t o).opened := by
  induction k with
  | zero => exact absurd later (Nat.not_lt_zero o)
  | succ k ih =>
    have here := List.getElem?_eq_getElem (show k < t.length from bound)
    rcases Nat.lt_succ_iff_lt_or_eq.mp later with inside | rfl
    · obtain ⟨extra, stack⟩ := ih inside (by omega) fun n le => covered n (by omega)
      have isOpen := isOpen_of_opened (by omega) stack
      cases (before_stepped here).braces with
      | opens plain brace opened => exact ⟨k :: extra, by rw [opened, stack]; rfl⟩
      | closes plain brace top opened =>
        cases extra with
        | nil =>
          have level := isOpen.level
          have final := covered (k + 1) le_rfl
          rw [between_marking_succ inside here, between_marking_succ inside here,
            if_pos ⟨plain, brace⟩, if_neg fun same => absurd (brace.symm.trans same.2) (by decide)]
            at final
          rw [List.length_nil] at level
          omega
        | cons n extra =>
          rw [stack] at top
          obtain ⟨rfl, rfl⟩ := List.cons.inj top
          exact ⟨extra, opened⟩
      | keeps noOpen outside opened => exact ⟨extra, opened.trans stack⟩
    · obtain ⟨plain, brace⟩ := (shows_iff here).mp opens
      cases (before_stepped here).braces with
      | opens _ _ opened => exact ⟨[], opened⟩
      | closes _ other => exact absurd (brace.symm.trans other) (by decide)
      | keeps noOpen => exact absurd brace (noOpen plain)

theorem mem_closed_iff (bound : k ≤ t.length) :
    (i, j) ∈ (before t k).closed ↔
      j < k ∧ (marking t).Shows t Byte.closeBrace j ∧ (before t j).opened.head? = some i := by
  induction k with
  | zero => simp [before, run]
  | succ k ih =>
    have here := List.getElem?_eq_getElem (show k < t.length from bound)
    have split : j < k + 1 ↔ j < k ∨ j = k := Nat.lt_succ_iff_lt_or_eq
    cases (before_stepped here).braces with
    | opens plain brace opened closed =>
      rw [closed, ih (by omega), split, or_and_right, iff_self_or]
      rintro ⟨rfl, shows, -⟩
      exact absurd (brace.symm.trans ((shows_iff here).mp shows).2) (by decide)
    | @closes o outer plain brace inside opened closed =>
      rw [closed, List.mem_append, ih (by omega), split, or_and_right, List.mem_singleton,
        Prod.mk.injEq]
      refine or_congr_right ⟨?_, ?_⟩
      · rintro ⟨rfl, rfl⟩
        exact ⟨rfl, (shows_iff here).mpr ⟨plain, brace⟩, by rw [inside]; rfl⟩
      · rintro ⟨rfl, -, top⟩
        rw [inside] at top
        exact ⟨(Option.some.inj top).symm, rfl⟩
    | keeps noOpen outside opened closed =>
      rw [closed, ih (by omega), split, or_and_right, iff_self_or]
      rintro ⟨rfl, shows, top⟩
      obtain ⟨plain, brace⟩ := (shows_iff here).mp shows
      rw [outside plain brace] at top
      cases top

theorem closed_iff_matched (bound : j < t.length) :
    (marking t).Shows t Byte.closeBrace j ∧ (before t j).opened.head? = some i ↔
      Matched t (marking t) i j := by
  constructor
  · rintro ⟨closes, top⟩
    obtain ⟨-, isOpen⟩ := isOpen_of_head? (Nat.le_of_lt bound) top
    have level := isOpen.level
    rw [List.length_nil, Nat.zero_add] at level
    exact ⟨isOpen.opens, closes, isOpen.earlier, level.symm, isOpen.covered⟩
  · rintro ⟨opens, closes, before, level, covered⟩
    obtain ⟨extra, stack⟩ := opened_of_covered opens before (Nat.le_of_lt bound) covered
    have isOpen := isOpen_of_opened (Nat.le_of_lt bound) stack
    have counted := isOpen.level
    have nothing : extra = [] := List.length_eq_zero_iff.mp (by omega)
    rw [stack, nothing]
    exact ⟨closes, rfl⟩

end Scan

namespace Matched

variable {t : Text} {a b c d i j k : Nat}

theorem mem_objectSpans_iff : (i, j) ∈ objectSpans t ↔ Matched t (Scan.marking t) i j := by
  have whole : Scan.before t t.length = Scan.run 0 {} t := by rw [Scan.before, List.take_length]
  rw [(objectSpans_perm t).mem_iff, ← whole, Scan.mem_closed_iff le_rfl]
  constructor
  · rintro ⟨bound, closed⟩
    exact (Scan.closed_iff_matched bound).mp closed
  · intro matched
    obtain ⟨bound, -⟩ := List.getElem?_eq_some_iff.mp matched.closes.2
    exact ⟨bound, (Scan.closed_iff_matched bound).mpr matched⟩

theorem opened_eq (h : Matched t (Scan.marking t) i j) :
    (Scan.before t j).opened = i :: (Scan.before t i).opened := by
  obtain ⟨bound, -⟩ := List.getElem?_eq_some_iff.mp h.closes.2
  have top := ((Scan.closed_iff_matched bound).mpr h).2
  exact (Scan.isOpen_of_head? (Nat.le_of_lt bound) top).1

theorem depth_pos (h : Matched t (Scan.marking t) i j) : 0 < (Scan.marking t).depth t j := by
  obtain ⟨bound, -⟩ := List.getElem?_eq_some_iff.mp h.closes.2
  rw [Scan.depth_marking (Nat.le_of_lt bound), h.opened_eq]
  exact Nat.succ_pos _

/-- Behind the closing brace as many braces are open as in front of the opening one. -/
theorem depth_succ (h : Matched t (Scan.marking t) i j) :
    (Scan.marking t).depth t (j + 1) = (Scan.marking t).depth t i := by
  obtain ⟨bound, -⟩ := List.getElem?_eq_some_iff.mp h.closes.2
  have notOpen : ¬(Scan.marking t).Shows t Byte.openBrace j := fun opens =>
    opens.not_both h.closes
  have before := h.before
  rw [Marking.depth, if_neg notOpen, if_pos h.closes, Scan.depth_marking (Nat.le_of_lt bound),
    Scan.depth_marking (by omega), h.opened_eq, List.length_cons, Nat.add_sub_cancel]

theorem start_unique (h : Matched t (Scan.marking t) a j) (h' : Matched t (Scan.marking t) b j) :
    a = b :=
  (List.cons.inj (h.opened_eq.symm.trans h'.opened_eq)).1

theorem end_le_end {outside : Marking} (h : Matched t outside a b) (h' : Matched t outside a d) :
    d ≤ b := by
  refine Nat.le_of_not_lt fun later => ?_
  -- Behind the brace at `b` more would be closed than was opened.
  have covered := h'.covered (b + 1) later
  have level := h.level
  have notOpen : ¬outside.Shows t Byte.openBrace b := fun opens => opens.not_both h.closes
  rw [between_succ h.before, between_succ h.before, if_pos h.closes, if_neg notOpen] at covered
  omega

theorem start_ne_end {outside : Marking} (h : Matched t outside a b) (h' : Matched t outside c d) :
    a ≠ d := by
  rintro rfl
  exact h.opens.not_both h'.closes

theorem nested_or_apart (h : Matched t (Scan.marking t) a b) (h' : Matched t (Scan.marking t) c d)
    (before : a < c) : b < c ∨ d < b := by
  rcases Nat.lt_trichotomy b d with overlaps | rfl | inner
  · refine Nat.lt_or_ge b c |>.imp_right fun le => ?_
    -- The brace at `c` is still open when the one at `a` is closed, so it is the older one.
    have apart := h'.start_ne_end h
    obtain ⟨bound, -⟩ := List.getElem?_eq_some_iff.mp h.closes.2
    obtain ⟨extra, stack⟩ := Scan.opened_of_covered h'.opens (by omega : c < b) (Nat.le_of_lt bound)
      fun n le => h'.covered n (by omega)
    rw [h.opened_eq] at stack
    cases extra with
    | nil => exact absurd (List.cons.inj stack).1 (by omega)
    | cons n extra =>
      have older := (List.cons.inj stack).2
      have first := h.before
      have isOpen := Scan.isOpen_of_opened (by omega : a ≤ t.length) older
      exact absurd isOpen.earlier (by omega)
  · exact absurd (h.start_unique h') (by omega)
  · exact .inr inner

theorem ends_ne {x y : ObjectSpan} (hx : Matched t (Scan.marking t) x.1 x.2)
    (hy : Matched t (Scan.marking t) y.1 y.2) (other : x ≠ y) : x.1 ≠ y.1 ∧ x.2 ≠ y.2 := by
  refine ⟨fun same => other (Prod.ext same ?_), fun same => other (Prod.ext ?_ same)⟩
  · rw [← same] at hy
    exact Nat.le_antisymm (hy.end_le_end hx) (hx.end_le_end hy)
  · rw [← same] at hy
    exact hx.start_unique hy

theorem ne_of_stray (h : Matched t (Scan.marking t) i j)
    (closes : (Scan.marking t).Shows t Byte.closeBrace k)
    (stray : (Scan.marking t).depth t k = 0) : i ≠ k ∧ j ≠ k := by
  constructor
  · rintro rfl
    exact h.opens.not_both closes
  · rintro rfl
    have inside := h.depth_pos
    omega

theorem ne_of_unclosed (h : Matched t (Scan.marking t) i j)
    (opens : (Scan.marking t).Shows t Byte.openBrace k)
    (unclosed : ∀ n, k < n → n ≤ t.length →
      (Scan.marking t).depth t k < (Scan.marking t).depth t n) : i ≠ k ∧ j ≠ k := by
  constructor
  · rintro rfl
    obtain ⟨bound, -⟩ := List.getElem?_eq_some_iff.mp h.closes.2
    have still := unclosed (j + 1) (Nat.lt_succ_of_lt h.before) bound
    rw [h.depth_succ] at still
    exact Nat.lt_irrefl _ still
  · rintro rfl
    exact opens.not_both h.closes

end Matched

/-- A text has one reading in which strings open inside of braces and end where they should. The
spans of its objects are the pairs of braces outside of strings with balanced ones between them. -/
theorem objectSpans_are_matched_braces (t : Text) :
    ∃ outside : Marking,
      IsReading t outside ∧
      (∀ other, IsReading t other → ∀ i ≤ t.length, other i = outside i) ∧
      (∀ i j, (i, j) ∈ objectSpans t ↔ Matched t outside i j) ∧
      Increasing (objectSpans t) ∧
      (∀ x ∈ objectSpans t, ∀ y ∈ objectSpans t,
        x.1 ≠ y.2 ∧ (x ≠ y → x.1 ≠ y.1 ∧ x.2 ≠ y.2) ∧
          (x.1 < y.1 → x.2 < y.1 ∨ y.2 < x.2)) ∧
      (∀ j, outside.Shows t Byte.closeBrace j → outside.depth t j = 0 →
        ∀ x ∈ objectSpans t, x.1 ≠ j ∧ x.2 ≠ j) ∧
      ∀ i, outside.Shows t Byte.openBrace i →
        (∀ k, i < k → k ≤ t.length → outside.depth t i < outside.depth t k) →
        ∀ x ∈ objectSpans t, x.1 ≠ i ∧ x.2 ≠ i := by
  have reading := Scan.isReading_marking t
  have matched {x : ObjectSpan} (member : x ∈ objectSpans t) :
      Matched t (Scan.marking t) x.1 x.2 := Matched.mem_objectSpans_iff.mp member
  refine ⟨Scan.marking t, reading, fun other also => reading.unique also,
    fun i j => Matched.mem_objectSpans_iff, increasing_objectSpans t, fun x hx y hy => ?_,
    fun j closes stray x hx => (matched hx).ne_of_stray closes stray,
    fun i opens unclosed x hx => (matched hx).ne_of_unclosed opens unclosed⟩
  exact ⟨(matched hx).start_ne_end (matched hy), (matched hx).ends_ne (matched hy),
    (matched hx).nested_or_apart (matched hy)⟩

end ProviderHost
