import ProviderHost.Provider

/-!
# Lines of a stream

A provider writes lines; the host reads its streams in pieces that end anywhere. A line ends at
a newline, loses one carriage return before it, and does not count when nothing is left.
`split_append` says that a stream may be cut anywhere, `fields_eq_split` that nothing is lost.
-/

namespace ProviderHost.Lines

def split : Text → List Text × Text
  | [] => ([], [])
  | b :: t =>
    match split t with
    | (lines, rest) =>
      if b = Byte.newline then ([] :: lines, rest)
      else
        match lines with
        | [] => ([], b :: rest)
        | line :: lines => ((b :: line) :: lines, rest)

/-- A line as it counts: without one carriage return at its end, and only if not empty. -/
def counted? (line : Text) : Option Text :=
  let line := if line.getLast? = some Byte.carriageReturn then line.dropLast else line
  if line = [] then none else some line

/-- A piece of a stream without one carriage return at its end. -/
def withoutReturn (piece : Text) : Text :=
  if piece.getLast? = some Byte.carriageReturn then piece.dropLast else piece

/-- The lines of a stream that has ended: its pieces between newlines, the last one included,
each without one carriage return at its end, and without the pieces that are empty then. -/
def ofStream (t : Text) : List Text :=
  ((Text.fields Byte.newline t).map withoutReturn).filter (· ≠ [])

theorem counted?_eq (line : Text) :
    counted? line = if withoutReturn line = [] then none else some (withoutReturn line) := rfl

theorem ofStream_eq_filterMap (t : Text) :
    ofStream t = (Text.fields Byte.newline t).filterMap counted? := by
  unfold ofStream
  induction Text.fields Byte.newline t with
  | nil => rfl
  | cons piece pieces ih =>
    rw [List.map_cons, List.filter_cons, List.filterMap_cons, ih, counted?_eq]
    by_cases empty : withoutReturn piece = [] <;> simp [empty]

/-- Cutting at newlines after a part has been read: its complete lines, and its rest in front
of what follows. -/
theorem split_append (t u : Text) :
    split (t ++ u) =
      ((split t).1 ++ (split ((split t).2 ++ u)).1, (split ((split t).2 ++ u)).2) := by
  induction t with
  | nil => simp [split]
  | cons b t ih =>
    by_cases hb : b = Byte.newline
    · simp [split, ih, hb]
    · cases hs : (split t).1 with
      | nil =>
        simp only [List.cons_append, split, ih, hs, hb, if_false, List.nil_append]
      | cons line lines => simp [split, ih, hs, hb]

/-- A text is its pieces between newlines: the complete lines and the rest. -/
theorem fields_eq_split (t : Text) :
    Text.fields Byte.newline t = (split t).1 ++ [(split t).2] := by
  induction t with
  | nil => rfl
  | cons b t ih =>
    by_cases hb : b = Byte.newline
    · simp [Text.fields, split, ih, hb]
    · cases hs : (split t).1 with
      | nil => simp [Text.fields, split, ih, hs, hb]
      | cons line lines => simp [Text.fields, split, ih, hs, hb]

end ProviderHost.Lines
