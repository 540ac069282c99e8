import ProviderHost.Proofs.ToolCall.JsonText

/-!
# The objects of a text

The scanner comes through a value inside of an object as it was before, with all objects of the
value found (`Balanced`). Outside of all objects nothing but an opening brace counts, and what was
found before does not change what is found later. So an object is found with all objects in it
wherever it stands.
-/

namespace ProviderHost

/-! ### Spans -/

namespace ObjectSpan

theorem shift_shift (k n : Nat) (x : ObjectSpan) : (x.shift n).shift k = x.shift (k + n) := by
  simp [shift, Nat.add_assoc]

theorem map_shift_zero (spans : List ObjectSpan) : spans.map (shift 0) = spans := by
  have same (x : ObjectSpan) : x.shift 0 = x := Prod.ext (Nat.zero_add x.1) (Nat.zero_add x.2)
  rw [List.map_congr_left fun x _ => same x, List.map_id']

theorem slice_append {x : ObjectSpan} {t : Text} (within : x.1 ≤ x.2 ∧ x.2 < t.length) (u : Text) :
    x.slice (t ++ u) = x.slice t := by
  obtain ⟨ordered, inside⟩ := within
  unfold slice
  rw [List.drop_append_of_le_length (by omega)]
  exact List.take_append_of_le_length (by rw [List.length_drop]; omega)

theorem slice_shift (x : ObjectSpan) (t u : Text) :
    (x.shift t.length).slice (t ++ u) = x.slice u := by
  have size : t.length + x.2 + 1 - (t.length + x.1) = x.2 + 1 - x.1 := by omega
  simp only [slice, shift, size, List.drop_length_add_append]

theorem head?_slice {x : ObjectSpan} {t : Text} (ordered : x.1 ≤ x.2) :
    (x.slice t).head? = t[x.1]? := by
  have nonempty : x.2 + 1 - x.1 ≠ 0 := by omega
  rw [slice, List.head?_take, if_neg nonempty, List.head?_drop]

theorem getLast?_slice {x : ObjectSpan} {t : Text} (within : x.1 ≤ x.2 ∧ x.2 < t.length) :
    (x.slice t).getLast? = t[x.2]? := by
  have length : (x.slice t).length = x.2 + 1 - x.1 := by
    rw [slice, List.length_take, List.length_drop]
    omega
  rw [List.getLast?_eq_getElem?, length, slice, List.getElem?_take_of_lt (by omega),
    List.getElem?_drop]
  congr 1
  omega

theorem shift_behind (k : Nat) (front : Text) (spans : List ObjectSpan) :
    (behind front spans).map (shift k) = spans.map (shift (k + front.length)) := by
  rw [behind, List.map_map]
  exact List.map_congr_left fun x _ => shift_shift k front.length x

end ObjectSpan

/-- A list of spans by the order in which they open. -/
abbrev Increasing (spans : List ObjectSpan) : Prop := spans.Pairwise fun x y => x.1 < y.1

theorem Increasing.behind {spans : List ObjectSpan} (h : Increasing spans) (front : Text) :
    Increasing (ObjectSpan.behind front spans) := by
  refine List.pairwise_map.mpr (h.imp fun before => ?_)
  simpa [ObjectSpan.shift] using before

theorem Increasing.eq_of_perm {xs ys : List ObjectSpan} (hx : Increasing xs) (hy : Increasing ys)
    (perm : xs.Perm ys) : xs = ys :=
  perm.eq_of_pairwise (fun x y _ _ before after => absurd before (by omega)) hx hy

namespace Scan

/-! ### Outside of strings -/

/-- Whether a byte changes nothing outside of strings. -/
def IsIdle (b : UInt8) : Prop := b ≠ Byte.quote ∧ b ≠ Byte.openBrace ∧ b ≠ Byte.closeBrace

instance (b : UInt8) : Decidable (IsIdle b) := inferInstanceAs (Decidable (_ ∧ _))

-- To decide this the bytes of the text are gone through, not all the bytes there are.
instance (t : Text) : Decidable (∀ b ∈ t, IsIdle b) := List.decidableBAll IsIdle t

theorem run_idle {s : Scan} (plain : s.mode = .plain) {t : Text} (idle : ∀ b ∈ t, IsIdle b)
    (i : Nat) : run i s t = s := by
  induction t generalizing i with
  | nil => rfl
  | cons b t ih =>
    obtain ⟨⟨notQuote, notOpen, notClose⟩, later⟩ := List.forall_mem_cons.mp idle
    have step : s.step i b = s := by
      unfold Scan.step stepPlain
      rw [plain]
      cases s.opened <;> simp [notQuote, notOpen, notClose]
    rw [run, step]
    exact ih later (i + 1)

/-- Outside of all braces nothing but an opening brace counts. -/
theorem run_outside {s : Scan} (plain : s.mode = .plain) (outside : s.opened = []) {t : Text}
    (noBrace : Byte.openBrace ∉ t) (i : Nat) : run i s t = s := by
  induction t generalizing i with
  | nil => rfl
  | cons b t ih =>
    simp only [List.mem_cons, not_or] at noBrace
    have step : s.step i b = s := by
      unfold Scan.step stepPlain
      rw [plain, if_neg (Ne.symm noBrace.1), outside]
    rw [run, step]
    exact ih noBrace.2 (i + 1)

/-! ### Strings -/

theorem run_inString {s : Scan} (inString : s.mode = .inString) {t : Text}
    (ordinary : ∀ b ∈ t, b ≠ Byte.quote ∧ b ≠ Byte.backslash) (i : Nat) : run i s t = s := by
  induction t generalizing i with
  | nil => rfl
  | cons b t ih =>
    obtain ⟨⟨notQuote, notBackslash⟩, later⟩ := List.forall_mem_cons.mp ordinary
    have step : s.step i b = s := by
      unfold Scan.step
      rw [inString]
      simp [notQuote, notBackslash]
    rw [run, step]
    exact ih later (i + 1)

theorem run_escape {s : Scan} (inString : s.mode = .inString) (b : UInt8) (t : Text) (i : Nat) :
    run i s (Byte.backslash :: b :: t) = run (i + 2) s t := by
  obtain ⟨mode, opened, closed⟩ := s
  cases inString
  rfl

open JsonText

theorem run_character {s : Scan} (inString : s.mode = .inString) (c : Character) (i : Nat) :
    run i s c.text = s := by
  cases c with
  | plain b allowed =>
    refine run_inString inString ?_ i
    rintro _ ⟨⟩
    · exact allowed.2
    · contradiction
  | escape e => exact run_escape inString e.letter [] i
  | unicode a b c d =>
    have ordinary (d : HexDigit) : d.byte ≠ Byte.quote ∧ d.byte ≠ Byte.backslash := by
      obtain ⟨value, isCapital⟩ := d
      revert value isCapital
      decide
    have digits : run (i + 2) s [a.byte, b.byte, c.byte, d.byte] = s :=
      run_inString inString (by simp [ordinary]) (i + 2)
    exact (run_escape inString 117 _ i).trans digits

theorem run_characters {s : Scan} (inString : s.mode = .inString) (q : Quoted) (i : Nat) :
    run i s (q.flatMap Character.text) = s := by
  induction q generalizing i with
  | nil => rfl
  | cons c q ih =>
    rw [List.flatMap_cons, run_append, run_character inString, ih]

/-- A string inside of an object is passed as a whole, whatever is written in it. -/
theorem run_quoted {s : Scan} (plain : s.mode = .plain) (inside : s.opened ≠ []) (q : Quoted)
    (i : Nat) : run i s q.text = s := by
  obtain ⟨mode, opened, closed⟩ := s
  cases plain
  match opened, inside with
  | o :: outer, _ =>
    have opens : Scan.step i Byte.quote { opened := o :: outer, closed := closed } =
        { mode := .inString, opened := o :: outer, closed := closed } := rfl
    rw [Quoted.text, run, opens, run_append, run_characters rfl]
    rfl

end Scan

/-! ### Values inside of objects -/

/-- A text that takes the scanner back to where it was, with all objects in the text found. -/
structure Balanced (t : Text) (spans : List ObjectSpan) (objects : List Text) : Prop where
  scans : ∀ (i : Nat) (s : Scan), s.mode = .plain → s.opened ≠ [] →
    ∃ found, found.Perm (spans.map (ObjectSpan.shift i)) ∧
      Scan.run i s t = { s with closed := s.closed ++ found }
  increasing : Increasing spans
  within : ∀ x ∈ spans, x.1 ≤ x.2 ∧ x.2 < t.length
  slices : spans.map (·.slice t) = objects

namespace Balanced

variable {t u : Text} {xs ys : List ObjectSpan} {a b : List Text}

theorem of_run_eq (same : ∀ (i : Nat) (s : Scan), s.mode = .plain → s.opened ≠ [] →
    Scan.run i s t = s) : Balanced t [] [] where
  scans i s plain inside := ⟨[], .nil, by rw [same i s plain inside, List.append_nil]⟩
  increasing := .nil
  within _ member := by contradiction
  slices := rfl

theorem idle (idle : ∀ b ∈ t, Scan.IsIdle b) : Balanced t [] [] :=
  of_run_eq fun i _ plain _ => Scan.run_idle plain idle i

theorem quoted (q : JsonText.Quoted) : Balanced q.text [] [] :=
  of_run_eq fun i _ plain inside => Scan.run_quoted plain inside q i

theorem append (ht : Balanced t xs a) (hu : Balanced u ys b) :
    Balanced (t ++ u) (xs ++ ObjectSpan.behind t ys) (a ++ b) where
  scans i s plain inside := by
    obtain ⟨first, firstPerm, firstRun⟩ := ht.scans i s plain inside
    obtain ⟨second, secondPerm, secondRun⟩ :=
      hu.scans (i + t.length) { s with closed := s.closed ++ first } plain inside
    refine ⟨first ++ second, ?_, ?_⟩
    · rw [List.map_append, ObjectSpan.shift_behind]
      exact firstPerm.append secondPerm
    · rw [Scan.run_append, firstRun, secondRun, List.append_assoc]
  increasing := by
    refine List.pairwise_append.mpr ⟨ht.increasing, hu.increasing.behind t, ?_⟩
    intro x hx y hy
    obtain ⟨z, -, rfl⟩ := List.mem_map.mp hy
    have inside := ht.within x hx
    simp only [ObjectSpan.shift]
    omega
  within x member := by
    rw [List.length_append]
    rcases List.mem_append.mp member with hx | hy
    · have inside := ht.within x hx
      omega
    · obtain ⟨y, found, rfl⟩ := List.mem_map.mp hy
      have inside := hu.within y found
      simp only [ObjectSpan.shift]
      omega
  slices := by
    rw [List.map_append, ObjectSpan.behind, List.map_map, ← ht.slices, ← hu.slices]
    congr 1
    · exact List.map_congr_left fun x hx => ObjectSpan.slice_append (ht.within x hx) u
    · exact List.map_congr_left fun y _ => ObjectSpan.slice_shift y t u

theorem append_idle (ht : Balanced t xs a) (idle : ∀ b ∈ u, Scan.IsIdle b) :
    Balanced (t ++ u) xs a := by
  have whole := ht.append (.idle idle)
  rwa [List.append_nil, ObjectSpan.behind, List.map_nil, List.append_nil] at whole

theorem run_braces (ht : Balanced t xs a) {s : Scan} (plain : s.mode = .plain) (i : Nat) :
    ∃ found, found.Perm (((0, t.length + 1) :: ObjectSpan.behind [Byte.openBrace] xs).map
        (ObjectSpan.shift i)) ∧
      Scan.run i s (Byte.openBrace :: (t ++ [Byte.closeBrace])) =
        { s with closed := s.closed ++ found } := by
  obtain ⟨mode, opened, closed⟩ := s
  cases plain
  obtain ⟨found, perm, run⟩ :=
    ht.scans (i + 1) { opened := i :: opened, closed := closed } rfl (List.cons_ne_nil i opened)
  refine ⟨found ++ [(i, i + 1 + t.length)], ?_, ?_⟩
  · have first : (i, i + 1 + t.length) = ObjectSpan.shift i (0, t.length + 1) := by
      simp only [ObjectSpan.shift, Prod.mk.injEq]
      omega
    rw [List.map_cons, ObjectSpan.shift_behind, ← first]
    exact (List.perm_append_singleton _ found).trans (perm.cons _)
  · have opens : Scan.step i Byte.openBrace { opened := opened, closed := closed } =
        { opened := i :: opened, closed := closed } := rfl
    rw [Scan.run, opens, Scan.run_append, run]
    change Scan.mk .plain opened ((closed ++ found) ++ _) = _
    rw [List.append_assoc]

theorem braces (ht : Balanced t xs a) :
    Balanced (Byte.openBrace :: (t ++ [Byte.closeBrace]))
      ((0, t.length + 1) :: ObjectSpan.behind [Byte.openBrace] xs)
      ((Byte.openBrace :: (t ++ [Byte.closeBrace])) :: a) where
  scans i s plain _ := ht.run_braces plain i
  increasing := by
    refine List.pairwise_cons.mpr ⟨fun y hy => ?_, ht.increasing.behind _⟩
    obtain ⟨x, -, rfl⟩ := List.mem_map.mp hy
    simp only [ObjectSpan.shift, List.length_singleton]
    omega
  within x member := by
    rw [List.length_cons, List.length_append]
    rcases List.mem_cons.mp member with rfl | hy
    · exact ⟨Nat.zero_le _, Nat.lt_succ_self _⟩
    · obtain ⟨y, found, rfl⟩ := List.mem_map.mp hy
      have inside := ht.within y found
      simp only [ObjectSpan.shift, List.length_singleton]
      omega
  slices := by
    rw [List.map_cons, ObjectSpan.behind, List.map_map, ← ht.slices]
    congr 1
    · rw [ObjectSpan.slice]
      exact List.take_of_length_le (by simp)
    · refine List.map_congr_left fun x hx => ?_
      exact (ObjectSpan.slice_shift x [Byte.openBrace] _).trans
        (ObjectSpan.slice_append (ht.within x hx) _)

end Balanced

namespace JsonText

theorem Gap.idle (gap : Gap) : ∀ b ∈ gap.text, Scan.IsIdle b := by
  intro b member
  obtain ⟨blank, -, rfl⟩ := List.mem_map.mp member
  cases blank <;> decide

theorem Digits.idle (d : Digits) : ∀ b ∈ d.text, Scan.IsIdle b := by
  have one (e : Fin 10) : Scan.IsIdle (digit e) := by
    revert e
    decide
  refine List.forall_mem_cons.mpr ⟨one d.first, fun b member => ?_⟩
  obtain ⟨e, -, rfl⟩ := List.mem_map.mp member
  exact one e

theorem Sign.idle (sign : Option Sign) : ∀ b ∈ Sign.text sign, Scan.IsIdle b := by
  match sign with
  | none => decide
  | some .plus => decide
  | some .minus => decide

theorem Whole.idle (w : Whole) : ∀ b ∈ w.text, Scan.IsIdle b := by
  cases w with
  | zero => decide
  | positive digits _ => exact digits.idle

theorem fraction_idle (f : Option Digits) : ∀ b ∈ fractionText f, Scan.IsIdle b := by
  cases f with
  | none => decide
  | some digits => exact List.forall_mem_append.mpr ⟨by decide, digits.idle⟩

theorem Exponent.idle (e : Option Exponent) : ∀ b ∈ Exponent.text e, Scan.IsIdle b := by
  match e with
  | none => decide
  | some ⟨isCapital, sign, digits⟩ =>
    refine List.forall_mem_cons.mpr ⟨?_, List.forall_mem_append.mpr ⟨Sign.idle sign, digits.idle⟩⟩
    cases isCapital <;> decide

theorem Numeral.idle (n : Numeral) : ∀ b ∈ n.text, Scan.IsIdle b := by
  unfold Numeral.text
  simp only [List.forall_mem_append]
  exact ⟨⟨⟨Sign.idle _, n.whole.idle⟩, fraction_idle n.fraction⟩, Exponent.idle n.exponent⟩

theorem balanced_name (before : Gap) (name : Quoted) (after : Gap) :
    Balanced (before.text ++ name.text ++ after.text ++ ":") [] [] :=
  ((Balanced.idle before.idle).append (.quoted name)).append_idle after.idle
    |>.append_idle (by decide)

/-! One case for each way to write a value. -/

mutual

theorem Value.balanced (v : Value) : Balanced v.text v.spans (v.objects.map Object.text) :=
  match v with
  | .null => .idle (by decide)
  | .bool true => .idle (by decide)
  | .bool false => .idle (by decide)
  | .number n => .idle n.idle
  | .string q => .quoted q
  | .emptyArray gap =>
    .idle (List.forall_mem_append.mpr ⟨List.forall_mem_append.mpr ⟨by decide, gap.idle⟩, by decide⟩)
  | .array items => (Balanced.idle (by decide)).append items.balanced |>.append_idle (by decide)
  | .object o => o.balanced

theorem Item.balanced (item : Item) :
    Balanced item.text item.spans (item.objects.map Object.text) :=
  match item with
  | .mk before value after =>
    (Balanced.idle before.idle).append value.balanced |>.append_idle after.idle

theorem Items.balanced (items : Items) :
    Balanced items.text items.spans (items.objects.map Object.text) := by
  match items with
  | .last item => exact item.balanced
  | .more item rest =>
    have whole := (item.balanced.append_idle (u := ",") (by decide)).append rest.balanced
    rwa [← List.map_append] at whole

theorem Object.balanced (o : Object) : Balanced o.text o.spans (o.objects.map Object.text) := by
  match o with
  | .empty gap => exact (Balanced.idle gap.idle).braces
  | .members members => exact members.balanced.braces

theorem Members.balanced (members : Members) :
    Balanced members.text members.spans (members.objects.map Object.text) := by
  match members with
  | .last before name after value =>
    exact (balanced_name before name after).append value.balanced
  | .more before name after value rest =>
    have first := (balanced_name before name after).append value.balanced
    have whole := (first.append_idle (u := ",") (by decide)).append rest.balanced
    rwa [List.nil_append, List.nil_append, ← List.map_append] at whole

end

end JsonText

/-! ### Any text -/

namespace Scan

/-- Where the scanner stands in what is written behind `front`, when it found some spans there. -/
def continuing (front : Text) (found : List ObjectSpan) (s : Scan) : Scan :=
  { s with
    opened := s.opened.map (front.length + ·)
    closed := found ++ ObjectSpan.behind front s.closed }

theorem step_continuing (front : Text) (found : List ObjectSpan) (s : Scan) (i : Nat) (b : UInt8) :
    (s.continuing front found).step (front.length + i) b = (s.step i b).continuing front found := by
  obtain ⟨mode, opened, closed⟩ := s
  cases mode with
  | escaped => rfl
  | inString =>
    unfold step continuing
    simp only
    split
    · rfl
    · split <;> rfl
  | plain =>
    unfold step stepPlain continuing
    simp only
    split
    · rfl
    · cases opened with
      | nil => rfl
      | cons o outer =>
        simp only [List.map_cons]
        split
        · rfl
        · split
          · simp [ObjectSpan.behind, ObjectSpan.shift]
          · rfl

theorem run_continuing (front : Text) (found : List ObjectSpan) (s : Scan) (i : Nat) (t : Text) :
    run (front.length + i) (s.continuing front found) t = (run i s t).continuing front found := by
  induction t generalizing i s with
  | nil => rfl
  | cons b t ih =>
    rw [run, step_continuing, Nat.add_assoc]
    exact ih (s.step i b) (i + 1)

def starts (s : Scan) : List Nat := s.closed.map (·.1) ++ s.opened

theorem starts_step (i : Nat) (b : UInt8) (s : Scan) :
    (s.step i b).starts = s.starts ∨ (s.step i b).starts.Perm (i :: s.starts) := by
  obtain ⟨mode, opened, closed⟩ := s
  cases mode with
  | escaped => exact .inl rfl
  | inString =>
    unfold step
    simp only
    split
    · exact .inl rfl
    · split <;> exact .inl rfl
  | plain =>
    unfold step stepPlain
    simp only
    split
    · exact .inr List.perm_middle
    · cases opened with
      | nil => exact .inl rfl
      | cons o outer =>
        simp only
        split
        · exact .inl rfl
        · split
          · exact .inl (by simp [starts])
          · exact .inl rfl

theorem run_starts {s : Scan} {i : Nat} (distinct : s.starts.Nodup) (before : ∀ o ∈ s.starts, o < i)
    (t : Text) : (run i s t).starts.Nodup := by
  induction t generalizing i s with
  | nil => exact distinct
  | cons b t ih =>
    have new : i ∉ s.starts := fun member => Nat.lt_irrefl i (before i member)
    rcases starts_step i b s with same | opens
    · refine ih ?_ ?_ <;> rw [same]
      · exact distinct
      · exact fun o member => Nat.lt_succ_of_lt (before o member)
    · refine ih (opens.nodup_iff.mpr (List.nodup_cons.mpr ⟨new, distinct⟩)) fun o member => ?_
      rcases List.mem_cons.mp (opens.mem_iff.mp member) with rfl | member
      · exact Nat.lt_succ_self o
      · exact Nat.lt_succ_of_lt (before o member)

end Scan

theorem objectSpans_perm (t : Text) : (objectSpans t).Perm (Scan.run 0 {} t).closed :=
  List.mergeSort_perm _ _

theorem increasing_objectSpans (t : Text) : Increasing (objectSpans t) := by
  have sorted : (objectSpans t).Pairwise fun x y => x.1 ≤ y.1 := by
    have transitive (x y z : ObjectSpan) : decide (x.1 ≤ y.1) → decide (y.1 ≤ z.1) →
        decide (x.1 ≤ z.1) := by simpa using Nat.le_trans
    have total (x y : ObjectSpan) : decide (x.1 ≤ y.1) || decide (y.1 ≤ x.1) := by
      simpa using Nat.le_total x.1 y.1
    have h := List.pairwise_mergeSort transitive total (Scan.run 0 {} t).closed
    exact h.imp of_decide_eq_true
  have distinct : ((objectSpans t).map (·.1)).Nodup := by
    have starts : (Scan.run 0 {} t).starts.Nodup :=
      Scan.run_starts (s := {}) List.nodup_nil (by rintro _ ⟨⟩) t
    exact ((objectSpans_perm t).map _).nodup_iff.mpr (List.nodup_append.mp starts).1
  refine (sorted.and (List.pairwise_map.mp distinct)).imp fun h => ?_
  omega

theorem objectSpans_eq_of_perm {t : Text} {xs : List ObjectSpan} (increasing : Increasing xs)
    (perm : (Scan.run 0 {} t).closed.Perm xs) : objectSpans t = xs :=
  (increasing_objectSpans t).eq_of_perm increasing ((objectSpans_perm t).trans perm)

namespace JsonText.Object

theorem scans (o : Object) {s : Scan} (plain : s.mode = .plain) (i : Nat) :
    ∃ found, found.Perm (o.spans.map (ObjectSpan.shift i)) ∧
      Scan.run i s o.text = { s with closed := s.closed ++ found } := by
  match o with
  | .empty gap => exact (Balanced.idle gap.idle).run_braces plain i
  | .members ms => exact ms.balanced.run_braces plain i

theorem objectSpans_surrounded (o : Object) {p : Text} (noBrace : Byte.openBrace ∉ p) (t : Text) :
    objectSpans (p ++ o.text ++ t) =
      ObjectSpan.behind p o.spans ++ ObjectSpan.behind (p ++ o.text) (objectSpans t) := by
  obtain ⟨found, perm, passed⟩ := o.scans (s := {}) rfl (0 + p.length)
  have front : Scan.run 0 {} (p ++ o.text) = Scan.continuing (p ++ o.text) found {} := by
    rw [Scan.run_append, Scan.run_outside rfl rfl noBrace, passed]
    simp [Scan.continuing, ObjectSpan.behind]
  have whole := Scan.run_continuing (p ++ o.text) found {} 0 t
  rw [← front] at whole
  refine objectSpans_eq_of_perm ?_ ?_
  · refine List.pairwise_append.mpr
      ⟨o.balanced.increasing.behind p, (increasing_objectSpans t).behind _, ?_⟩
    intro x hx y hy
    obtain ⟨a, ha, rfl⟩ := List.mem_map.mp hx
    obtain ⟨b, -, rfl⟩ := List.mem_map.mp hy
    have inside := o.balanced.within a ha
    simp only [ObjectSpan.shift, List.length_append]
    omega
  · rw [Scan.run_append, Nat.add_comm, whole]
    rw [Nat.zero_add] at perm
    exact perm.append ((objectSpans_perm t).symm.map _)

/-- Exactly the objects of an object are found, each once and outer before inner, whatever is
written in its strings. In front of the object may stand any text without an opening brace, and
behind it any text. -/
theorem objectSpans_exact (o : Object) :
    objectSpans o.text = o.spans ∧
    (objectSpans o.text).map (·.slice o.text) = o.objects.map text ∧
    (objectSpans o.text).Nodup ∧
    (∀ x ∈ objectSpans o.text,
      o.text[x.1]? = some Byte.openBrace ∧ o.text[x.2]? = some Byte.closeBrace) ∧
    ∀ p t : Text, Byte.openBrace ∉ p →
      objectSpans (p ++ o.text ++ t) =
        (objectSpans o.text).map (ObjectSpan.shift p.length) ++
          (objectSpans t).map (ObjectSpan.shift (p.length + o.text.length)) := by
  have spans : objectSpans o.text = o.spans := by
    obtain ⟨found, perm, passed⟩ := o.scans (s := {}) rfl 0
    refine objectSpans_eq_of_perm o.balanced.increasing ?_
    rw [ObjectSpan.map_shift_zero] at perm
    rw [passed]
    exact perm
  rw [spans]
  refine ⟨rfl, o.balanced.slices, ?_, fun x member => ?_, fun p t noBrace => ?_⟩
  · exact o.balanced.increasing.imp fun before same => by
      rw [same] at before
      exact Nat.lt_irrefl _ before
  · have inside := o.balanced.within x member
    have slice : x.slice o.text ∈ o.objects.map text :=
      o.balanced.slices ▸ List.mem_map_of_mem member
    obtain ⟨inner, -, same⟩ := List.mem_map.mp slice
    rw [← ObjectSpan.head?_slice inside.1, ← ObjectSpan.getLast?_slice inside, ← same]
    cases inner <;> exact ⟨rfl, List.getLast?_concat (l := Byte.openBrace :: _)⟩
  · rw [o.objectSpans_surrounded noBrace t, ObjectSpan.behind, ObjectSpan.behind,
      List.length_append]

/-- An object with braces, quotes and backslashes in its strings, in prose with the like. -/
theorem objectSpans_in_prose :
    objectSpans ("He said \"\x7d: " ++ "\x7b\"\x7d\\\"\": [\x7b \x7d, \"\\\\\"]\x7d" ++ "\" \x7b") =
      [(12, 31), (21, 23)] := by
  let o : Object := .members (.last [] [.plain 125, .escape .quote] [] (.mk [.space]
    (.array (.more (.mk [] (.object (.empty [.space])) [])
      (.last (.mk [.space] (.string [.escape .backslash]) [])))) []))
  obtain ⟨alone, -, -, -, surrounded⟩ := objectSpans_exact o
  have whole := surrounded "He said \"\x7d: " "\" \x7b" (by decide)
  have nothing : objectSpans "\" \x7b" = [] := List.mergeSort_nil
  rw [alone, nothing] at whole
  exact whole

end JsonText.Object

end ProviderHost
