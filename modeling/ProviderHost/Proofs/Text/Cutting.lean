import ProviderHost.Text

/-!
# Cutting texts

A text that is cut at the first or the last byte of a kind is put together again from its parts,
and the part up to, or from, the cut holds no other byte of that kind. This tells where it was cut.

A mark of several bytes does not arise where two texts meet with a byte between them that is none of
its own. So what stands in front of such a byte, and holds no mark, does not move the cut
(`cutAt?_append_of_absent`).
-/

namespace ProviderHost.Text

variable {b : UInt8} {t front rest : Text}

theorem cut_of_absent (absent : b ∉ t) : cut b t = (t, none) := by
  induction t with
  | nil => rfl
  | cons c t ih =>
    simp only [List.mem_cons, not_or] at absent
    rw [cut, if_neg (Ne.symm absent.1), ih absent.2]

theorem cut_of_not_mem (absent : b ∉ front) (rest : Text) :
    cut b (front ++ b :: rest) = (front, some rest) := by
  induction front with
  | nil => simp [cut]
  | cons c front ih =>
    simp only [List.mem_cons, not_or] at absent
    obtain ⟨other, absent⟩ := absent
    rw [List.cons_append, cut, if_neg (Ne.symm other), ih absent]

theorem of_cut_eq_none (uncut : cut b t = (front, none)) : b ∉ t ∧ front = t := by
  induction t generalizing front with
  | nil =>
    cases uncut
    exact ⟨List.not_mem_nil, rfl⟩
  | cons c t ih =>
    rw [cut] at uncut
    split at uncut
    · cases uncut
    · rename_i other
      obtain ⟨rfl, later⟩ := Prod.mk.inj uncut
      obtain ⟨absent, same⟩ := ih (Prod.ext rfl later)
      refine ⟨?_, congrArg (c :: ·) same⟩
      simp only [List.mem_cons, not_or]
      exact ⟨Ne.symm other, absent⟩

theorem of_cut_eq_some (found : cut b t = (front, some rest)) :
    b ∉ front ∧ t = front ++ b :: rest := by
  induction t generalizing front with
  | nil => cases found
  | cons c t ih =>
    rw [cut] at found
    split at found
    · rename_i same
      cases found
      rw [same]
      exact ⟨List.not_mem_nil, rfl⟩
    · rename_i other
      obtain ⟨rfl, later⟩ := Prod.mk.inj found
      obtain ⟨absent, whole⟩ := ih (Prod.ext rfl later)
      refine ⟨?_, congrArg (c :: ·) whole⟩
      simp only [List.mem_cons, not_or]
      exact ⟨Ne.symm other, absent⟩

theorem cutLast?_of_not_mem (front : Text) (absent : b ∉ rest) :
    cutLast? b (front ++ b :: rest) = some (front, rest) := by
  have backwards : (front ++ b :: rest).reverse = rest.reverse ++ b :: front.reverse := by simp
  rw [cutLast?, backwards, cut_of_not_mem (by simpa using absent)]
  simp

theorem of_cutLast?_eq_some (found : cutLast? b t = some (front, rest)) :
    b ∉ rest ∧ t = front ++ b :: rest := by
  unfold cutLast? at found
  split at found
  · rename_i back before cuts
    obtain ⟨absent, whole⟩ := of_cut_eq_some cuts
    cases found
    refine ⟨by simpa using absent, ?_⟩
    have forwards := congrArg List.reverse whole
    simpa using forwards
  · cases found

theorem dropEnd_eq_self {p : UInt8 → Bool} (kept : ∀ c ∈ t.getLast?, p c = false) :
    dropEnd p t = t := by
  have first : ∀ c ∈ t.reverse.head?, p c = false := by simpa using kept
  have same : t.reverse.dropWhile p = t.reverse := by
    cases h : t.reverse with
    | nil => rfl
    | cons c r => exact List.dropWhile_cons_of_neg (by simp [first c (by simp [h])])
  rw [dropEnd, same, List.reverse_reverse]

theorem getLast?_dropEnd (p : UInt8 → Bool) (t : Text) :
    ∀ c ∈ (dropEnd p t).getLast?, p c = false := by
  intro c last
  rw [dropEnd, List.getLast?_reverse] at last
  have first := List.head?_dropWhile_not p t.reverse
  rw [Option.mem_def.mp last] at first
  simpa using first

theorem dropEnd_prefix (p : UInt8 → Bool) (t : Text) : dropEnd p t <+: t := by
  have suffix := List.dropWhile_suffix p (l := t.reverse)
  rw [dropEnd, ← List.reverse_suffix, List.reverse_reverse]
  exact suffix

/-! ### Marks of several bytes -/

variable {mark : Text} {c : UInt8}

theorem prefix_of_stray (stray : c ∉ mark) (found : mark <+: front ++ c :: rest) :
    mark <+: front := by
  have next : front ++ [c] <+: front ++ c :: rest := ⟨rest, by simp⟩
  rcases List.prefix_or_prefix_of_prefix found next with inside | beyond
  · rcases List.prefix_concat_iff.mp inside with same | before
    · exact absurd (same ▸ List.mem_concat_self) stray
    · exact before
  · exact absurd (beyond.subset List.mem_concat_self) stray

theorem infix_of_stray (stray : c ∉ mark) (found : mark <:+: front ++ c :: rest) :
    mark <:+: front ∨ mark <:+: rest := by
  induction front with
  | nil =>
    rcases List.infix_cons_iff.mp found with first | later
    · have empty : mark <+: [] := prefix_of_stray stray first
      exact .inl empty.isInfix
    · exact .inr later
  | cons b front ih =>
    rcases List.infix_cons_iff.mp found with first | later
    · have before : mark <+: b :: front := prefix_of_stray stray first
      exact .inl before.isInfix
    · exact (ih later).imp_left List.infix_cons

theorem infix_of_separated {separator : Text} (nonempty : separator ≠ [])
    (apart : separator.all (· ∉ mark)) (found : mark <:+: front ++ separator ++ rest) :
    mark <:+: front ∨ mark <:+: rest := by
  induction separator generalizing front with
  | nil => exact absurd rfl nonempty
  | cons b separator ih =>
    simp only [List.append_assoc, List.cons_append] at found
    rw [List.all_cons, Bool.and_eq_true] at apart
    rcases infix_of_stray (of_decide_eq_true apart.1) found with before | later
    · exact .inl before
    · by_cases last : separator = []
      · exact .inr (by simpa [last] using later)
      · have outside : mark <:+: [] ∨ mark <:+: rest := ih last apart.2 later
        exact outside.imp_left fun empty => empty.trans List.nil_infix

theorem after?_eq_none (absent : ¬ mark <+: t) : after? mark t = none := by
  cases found : after? mark t with
  | none => rfl
  | some rest => exact absurd ⟨rest, (after?_eq_some_iff.mp found).symm⟩ absent

theorem cutAt?_append_of_absent (absent : ¬ mark <:+: front) (stray : c ∉ mark) (t : Text) :
    cutAt? mark (front ++ c :: t) =
      (cutAt? mark (c :: t)).map fun (before, rest) => (front ++ before, rest) := by
  induction front with
  | nil => simp
  | cons b front ih =>
    have first : after? mark (b :: front ++ c :: t) = none :=
      after?_eq_none fun found => absent (prefix_of_stray stray found).isInfix
    have later : ¬ mark <:+: front := fun found => absent (List.infix_cons found)
    rw [List.cons_append] at first ⊢
    rw [cutAt?, first, ih later]
    simp only [Option.map_map]
    rfl

end ProviderHost.Text
