import ProviderHost.LogRing

/-!
# What a log ring holds

A ring holds the end of everything that was ever appended to it. Every line keeps the number that
it has in the whole of the lines, and so what is read off a ring at different times fits together
by the numbers.
-/

namespace ProviderHost

namespace LogEntry

def line (e : LogEntry) : Stream × Text := (e.stream, e.text)

def numbered (lines : List (Stream × Text)) : List LogEntry :=
  lines.mapIdx fun i line => ⟨i + 1, line.1, line.2⟩

@[simp] theorem length_numbered (lines : List (Stream × Text)) :
    (numbered lines).length = lines.length := List.length_mapIdx

theorem numbered_concat (lines : List (Stream × Text)) (line : Stream × Text) :
    numbered (lines ++ [line]) = numbered lines ++ [⟨lines.length + 1, line.1, line.2⟩] :=
  List.mapIdx_concat

theorem getElem?_numbered (lines : List (Stream × Text)) (i : Nat) :
    (numbered lines)[i]? = lines[i]?.map fun line => ⟨i + 1, line.1, line.2⟩ :=
  List.getElem?_mapIdx

theorem map_line_numbered (lines : List (Stream × Text)) : (numbered lines).map line = lines := by
  apply List.ext_getElem?
  intro i
  rw [List.getElem?_map, getElem?_numbered, Option.map_map]
  exact Option.map_id'

theorem map_sequence_numbered (lines : List (Stream × Text)) :
    (numbered lines).map (·.sequence) = List.range' 1 lines.length := by
  apply List.ext_getElem?
  intro i
  rw [List.getElem?_map, getElem?_numbered, Option.map_map]
  by_cases bound : i < lines.length
  · rw [List.getElem?_eq_getElem bound, List.getElem?_range' bound]
    exact congrArg some (by simp; omega)
  · rw [List.getElem?_eq_none (by omega), List.getElem?_eq_none (by simpa using bound)]
    rfl

/-- A number belongs to one line, however many lines follow. -/
theorem eq_of_mem_numbered {lines more : List (Stream × Text)} {e e' : LogEntry}
    (member : e ∈ numbered lines) (member' : e' ∈ numbered (lines ++ more))
    (same : e.sequence = e'.sequence) : e = e' := by
  obtain ⟨i, found⟩ := List.mem_iff_getElem?.mp member
  obtain ⟨j, found'⟩ := List.mem_iff_getElem?.mp member'
  rw [getElem?_numbered] at found found'
  obtain ⟨line, present, rfl⟩ := Option.map_eq_some_iff.mp found
  obtain ⟨line', present', rfl⟩ := Option.map_eq_some_iff.mp found'
  obtain rfl : i = j := Nat.succ.inj same
  have bound := (List.getElem?_eq_some_iff.mp present).1
  rw [List.getElem?_append_left bound, present] at present'
  cases present'
  rfl

end LogEntry

namespace LogRing

open LogEntry

/-- The ring after some more lines. -/
def appendAll (lines : List (Stream × Text)) (r : LogRing) : LogRing :=
  lines.foldl (fun r line => r.append line.1 line.2) r

theorem appendAll_append (r : LogRing) (lines more : List (Stream × Text)) :
    r.appendAll (lines ++ more) = (r.appendAll lines).appendAll more := List.foldl_append

def GrowsTo (r r' : LogRing) : Prop := ∃ lines, r' = r.appendAll lines

theorem GrowsTo.refl (r : LogRing) : r.GrowsTo r := ⟨[], rfl⟩

theorem GrowsTo.trans {r r' r'' : LogRing} (first : r.GrowsTo r') (second : r'.GrowsTo r'') :
    r.GrowsTo r'' := by
  obtain ⟨lines, rfl⟩ := first
  obtain ⟨more, rfl⟩ := second
  exact ⟨lines ++ more, (r.appendAll_append lines more).symm⟩

structure Reflects (lines : List (Stream × Text)) (r : LogRing) : Prop where
  entries : r.entries = (numbered lines).drop r.dropped
  dropped : r.dropped = lines.length - r.capacity
  next : r.next = lines.length + 1

theorem reflects_ofCapacity (capacity : Nat) : Reflects [] (ofCapacity capacity) where
  entries := rfl
  dropped := (Nat.zero_sub _).symm
  next := rfl

variable {lines : List (Stream × Text)} {r : LogRing}

theorem Reflects.append (reflects : Reflects lines r) (line : Stream × Text) :
    Reflects (lines ++ [line]) (r.append line.1 line.2) := by
  obtain ⟨entries, dropped, next⟩ := reflects
  have longer : (lines ++ [line]).length = lines.length + 1 := List.length_append
  have bound : r.dropped ≤ (numbered lines).length := by
    rw [dropped, length_numbered]
    omega
  have held : r.entries ++ [⟨r.next, line.1, line.2⟩] =
      (numbered (lines ++ [line])).drop r.dropped := by
    rw [numbered_concat, List.drop_append_of_le_length bound, ← entries, next]
  unfold LogRing.append evict
  simp only [LogRing.size, held]
  refine ⟨List.drop_drop, ?_, by rw [longer, next]⟩
  -- A ring that is full has one line too many now, any other none.
  rw [List.length_drop, length_numbered, longer]
  dsimp only
  omega

theorem Reflects.appendAll (reflects : Reflects lines r) (more : List (Stream × Text)) :
    Reflects (lines ++ more) (r.appendAll more) := by
  induction more generalizing lines r with
  | nil => rwa [List.append_nil]
  | cons line more ih =>
    rw [← List.singleton_append, ← List.append_assoc]
    exact ih (reflects.append line)

theorem capacity_appendAll (lines : List (Stream × Text)) (r : LogRing) :
    (r.appendAll lines).capacity = r.capacity := by
  induction lines generalizing r with
  | nil => rfl
  | cons line lines ih => exact ih (r.append line.1 line.2)

theorem Reflects.size (reflects : Reflects lines r) : r.size = min lines.length r.capacity := by
  rw [LogRing.size, reflects.entries, List.length_drop, length_numbered, reflects.dropped]
  omega

theorem Reflects.dropped_eq (reflects : Reflects lines r) :
    r.dropped = lines.length - r.size := by
  rw [reflects.size, reflects.dropped]
  omega

theorem Reflects.map_line (reflects : Reflects lines r) :
    r.entries.map line = lines.drop r.dropped := by
  rw [reflects.entries, List.map_drop, map_line_numbered]

theorem Reflects.map_sequence (reflects : Reflects lines r) :
    r.entries.map (·.sequence) = List.range' (r.dropped + 1) r.size := by
  rw [reflects.entries, List.map_drop, map_sequence_numbered, List.drop_range', reflects.size,
    reflects.dropped]
  congr 1 <;> omega

/-! ### Tails -/

theorem tail_suffix (limit : Nat) (r : LogRing) : r.tail limit <:+ r.entries := by
  unfold tail
  split
  · exact List.suffix_refl _
  · exact List.drop_suffix ..

theorem length_tail (limit : Nat) (r : LogRing) :
    (r.tail limit).length = if limit = 0 then r.size else min limit r.size := by
  unfold tail
  split
  · rfl
  · rw [List.length_drop, LogRing.size]
    omega

theorem Reflects.tail_suffix (reflects : Reflects lines r) (limit : Nat) :
    r.tail limit <:+ numbered lines :=
  (r.tail_suffix limit).trans (reflects.entries ▸ List.drop_suffix ..)

/-- After any lines a ring holds the newest of them, as many as it has room for, with their numbers
among all lines, and has counted the others. A tail is the end of that, and so an end of all lines;
what two tails at different times have under one number is the same. -/
theorem ring_holds_the_newest (capacity : Nat) (lines : List (Stream × Text)) :
    let r := (ofCapacity capacity).appendAll lines
    r.size = min lines.length (max capacity 1) ∧
    r.entries.map line = lines.drop (lines.length - r.size) ∧
    r.entries.map (·.sequence) = List.range' (lines.length - r.size + 1) r.size ∧
    r.dropped = lines.length - r.size ∧
    ∀ limit,
      r.tail limit <:+ r.entries ∧
      (r.tail limit).length = (if limit = 0 then r.size else min limit r.size) ∧
      (r.tail limit).map line <:+ lines ∧
      ∀ more limit', ∀ e ∈ r.tail limit, ∀ e' ∈ (r.appendAll more).tail limit',
        e.sequence = e'.sequence → e = e' := by
  intro r
  have reflects : Reflects lines r := (reflects_ofCapacity capacity).appendAll lines
  have room : r.capacity = max capacity 1 := capacity_appendAll lines (ofCapacity capacity)
  refine ⟨room ▸ reflects.size, ?_, ?_, reflects.dropped_eq, fun limit =>
    ⟨r.tail_suffix limit, r.length_tail limit, ?_, fun more limit' e member e' member' same => ?_⟩⟩
  · rw [← reflects.dropped_eq, reflects.map_line]
  · rw [← reflects.dropped_eq, reflects.map_sequence]
  · have cut := (reflects.tail_suffix limit).map line
    rwa [map_line_numbered] at cut
  · have later := (reflects.appendAll more).tail_suffix limit'
    exact eq_of_mem_numbered ((reflects.tail_suffix limit).mem member) (later.mem member') same

/-- A ring of two lines that has let one go. -/
example :
    let r := (ofCapacity 2).appendAll [(.out, "a"), (.err, "b"), (.out, "c")]
    r.dropped = 1 ∧ r.tail 1 = [⟨3, .out, "c"⟩] := by decide

end LogRing

end ProviderHost
