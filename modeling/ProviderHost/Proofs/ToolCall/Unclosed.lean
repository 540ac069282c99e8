import ProviderHost.Proofs.ToolCall.Braces

/-!
# Objects behind braces that nothing closes

A brace that nothing closes hides no object that comes later, unless a string is open where the
object begins: a quote behind the brace opens one, and up to its end all braces are passed.
-/

namespace ProviderHost

theorem Scan.closed_run {u : Text} (unclosed : Byte.closeBrace ∉ u) (i : Nat) (s : Scan) :
    (run i s u).closed = s.closed := by
  induction u generalizing i s with
  | nil => rfl
  | cons b u ih =>
    simp only [List.mem_cons, not_or] at unclosed
    rw [run, ih unclosed.2]
    cases (step_stepped i b s).braces with
    | opens _ _ _ closed => exact closed
    | closes _ brace => exact absurd brace.symm unclosed.1
    | keeps _ _ _ closed => exact closed

namespace JsonText.Object

theorem objectSpans_text (o : Object) : objectSpans o.text = o.spans := by
  have alone := o.objectSpans_surrounded (p := []) List.not_mem_nil []
  have nothing : objectSpans [] = [] := List.mergeSort_nil
  rw [nothing, ObjectSpan.behind, ObjectSpan.behind, List.map_nil, List.append_nil, List.append_nil,
    List.nil_append] at alone
  rw [alone]
  exact ObjectSpan.map_shift_zero o.spans

theorem spans_eq_cons (o : Object) : ∃ last inner, o.spans = (0, last) :: inner := by
  cases o with
  | empty gap => exact ⟨_, _, rfl⟩
  | members members => exact ⟨_, _, rfl⟩

/-- Behind a text that closes no brace an object is found, with all objects in it, if and only if
every string that opens in the text also ends in it. -/
theorem objectSpans_behind_unclosed {u : Text} (unclosed : Byte.closeBrace ∉ u) (o : Object)
    {outside : Marking} (reading : IsReading u outside) :
    objectSpans (u ++ o.text) = (objectSpans o.text).map (ObjectSpan.shift u.length) ↔
      ∀ q < u.length, outside.OpensString u q → ∃ e < u.length, EndsString u q e := by
  have mode : outside u.length ↔ (Scan.run 0 {} u).mode = .plain := by
    rw [(Scan.isReading_marking u).unique reading u.length le_rfl, Scan.marking_iff, Scan.before,
      List.take_length]
  rw [← reading u.length le_rfl, mode, o.objectSpans_text]
  constructor
  · intro same
    obtain ⟨last, inner, spans⟩ := o.spans_eq_cons
    have found : (u.length, u.length + last) ∈ objectSpans (u ++ o.text) := by
      rw [same, spans]
      exact List.mem_cons_self
    have plain := Scan.marking_iff.mp (Matched.mem_objectSpans_iff.mp found).opens.1
    rwa [Scan.before, List.take_left' rfl] at plain
  · intro plain
    obtain ⟨found, perm, passed⟩ := o.scans plain (0 + u.length)
    refine objectSpans_eq_of_perm (o.balanced.increasing.behind u) ?_
    rw [Scan.run_append, passed]
    change (_ ++ found).Perm _
    rw [Scan.closed_run unclosed]
    rw [Nat.zero_add] at perm
    exact perm

/-- A string that ends hides nothing, whatever braces and quotes it holds. -/
theorem object_behind_ended_string :
    let u : Text := "\x7b say \"a \\\" \x7b\" \x7b "
    let o : Object := .members (.last [] [.plain 97] [] (.mk [] (.object (.empty [])) []))
    Byte.closeBrace ∉ u ∧ objectSpans (u ++ o.text) = [(17, 24), (22, 23)] := by
  intro u o
  have unclosed : Byte.closeBrace ∉ u := by decide
  have reading := Scan.isReading_marking u
  have ended : Scan.marking u u.length := by decide
  have found := (objectSpans_behind_unclosed unclosed o reading).mpr
    ((reading u.length le_rfl).mp ended)
  rw [o.objectSpans_text] at found
  exact ⟨unclosed, found⟩

/-- A lone quote behind an open brace hides the object that comes after it. -/
theorem lone_quote_hides_object :
    let u : Text := "\x7b 5\" "
    let o : Object := .members (.last [] [.plain 97] [] (.mk [] (.object (.empty [])) []))
    Byte.closeBrace ∉ u ∧ o.text = "\x7b\"a\":\x7b\x7d\x7d" ∧
      objectSpans o.text = [(0, 7), (5, 6)] ∧ objectSpans (u ++ o.text) = [] ∧
      objectSpans (u ++ o.text) ≠ (objectSpans o.text).map (ObjectSpan.shift u.length) := by
  intro u o
  have found : objectSpans o.text = [(0, 7), (5, 6)] := o.objectSpans_text
  have hidden : objectSpans (u ++ o.text) = [] := by
    have closed : (Scan.run 0 {} (u ++ o.text)).closed = [] := by decide
    rw [objectSpans, closed, List.mergeSort_nil]
  refine ⟨by decide, rfl, found, hidden, ?_⟩
  rw [hidden, found]
  decide

end JsonText.Object

end ProviderHost
