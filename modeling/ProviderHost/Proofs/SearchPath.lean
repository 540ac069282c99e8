import ProviderHost.SearchPath

/-!
# The first match on the search path

The search reads the path by offsets, one directory at a time. `scan_eq_find?` says that it goes
through the pieces of the path between its colons, in order and to the last, and stops at the first
in which there is a file that may be run.
-/

namespace ProviderHost

def Node.IsRunnable : Node → Prop
  | .file mode _ => Files.executableMode mode
  | .program _ => True
  | _ => False

/-- A path leads to a regular file that somebody may run. -/
def Files.Runs (files : Files) (path : Text) : Prop :=
  ∃ place node, files.stat path = .ok (place, node) ∧ node.IsRunnable

theorem Files.isExecutable_iff {files : Files} {path : Text} :
    files.isExecutable path ↔ files.Runs path := by
  unfold isExecutable Runs
  cases reached : files.stat path with
  | error cause => simp
  | ok found =>
    obtain ⟨place, node⟩ := found
    have runs : (∃ p n, (.ok (place, node) : Except SystemFault _) = .ok (p, n) ∧ n.IsRunnable) ↔
        node.IsRunnable := by
      constructor
      · rintro ⟨p, n, same, runnable⟩
        cases same
        exact runnable
      · exact fun runnable => ⟨place, node, rfl, runnable⟩
    rw [runs]
    cases node <;> simp [Node.IsRunnable]

namespace SearchPath

variable {files : Files} {path command : Text} {start colon : Nat}

/-! ### Directories by offsets -/

theorem nextColon?_eq_none_iff : nextColon? path start = none ↔ Byte.colon ∉ path.drop start := by
  rw [nextColon?, Option.map_eq_none_iff, List.idxOf?_eq_none_iff]

theorem drop_of_nextColon? (next : nextColon? path start = some colon) :
    Byte.colon ∉ (path.drop start).take (colon - start) ∧ colon < path.length ∧
      path.drop start =
        (path.drop start).take (colon - start) ++ Byte.colon :: path.drop (colon + 1) := by
  obtain ⟨ahead, first, rfl⟩ := Option.map_eq_some_iff.mp next
  obtain ⟨within, here, before⟩ := List.idxOf?_eq_some_iff.mp first
  have inside : start + ahead < path.length := by
    rw [List.length_drop] at within
    omega
  rw [Nat.add_sub_cancel_left]
  refine ⟨fun member => ?_, inside, ?_⟩
  · obtain ⟨i, bound, same⟩ := List.mem_iff_getElem.mp member
    rw [List.length_take] at bound
    rw [List.getElem_take] at same
    exact before i (by omega) same
  · have behind : (path.drop start).drop (ahead + 1) = path.drop (start + ahead + 1) := by
      rw [List.drop_drop, Nat.add_assoc]
    rw [← behind, ← here, List.getElem_cons_drop, List.take_append_drop]

/-- The pieces of what is left of a path: its next directory, and those behind the next colon. -/
theorem splitOn_drop (path : Text) (start : Nat) :
    (path.drop start).splitOn Byte.colon =
      directoryAt path start ::
        match nextColon? path start with
        | some colon => (path.drop (colon + 1)).splitOn Byte.colon
        | none => [] := by
  unfold directoryAt
  cases next : nextColon? path start with
  | none => exact List.splitOn_eq_singleton (nextColon?_eq_none_iff.mp next)
  | some colon =>
    obtain ⟨plain, -, whole⟩ := drop_of_nextColon? next
    rw [whole, List.splitOn_append_cons_self_of_not_mem plain, ← whole]

theorem scan_of_le (within : start ≤ path.length) :
    scan files path command start =
      if files.isExecutable (fileIn (directoryAt path start) command) then
        some (fileIn (directoryAt path start) command)
      else (nextColon? path start).bind fun colon => scan files path command (colon + 1) := by
  rw [scan, if_pos within]
  dsimp only
  congr 1
  split <;> rename_i next <;> rw [next] <;> rfl

/-- The scan looks into the directories from an offset on, in order and to the last. -/
theorem scan_eq_find? (within : start ≤ path.length) :
    scan files path command start =
      (((path.drop start).splitOn Byte.colon).map (fileIn · command)).find? files.isExecutable := by
  induction start using scan.induct files path command with
  | case1 start _ file found =>
    rw [scan_of_le within, splitOn_drop, if_pos found, List.map_cons, List.find?_cons_of_pos found]
  | case2 start _ file missing next =>
    rw [scan_of_le within, splitOn_drop, if_neg missing, next, List.map_cons,
      List.find?_cons_of_neg missing]
    rfl
  | case3 start _ file missing colon next ih =>
    -- Behind the last colon the rest of the path may be empty, but its offset is not outside.
    obtain ⟨-, inside, -⟩ := drop_of_nextColon? next
    rw [scan_of_le within, splitOn_drop, if_neg missing, next, List.map_cons,
      List.find?_cons_of_neg missing]
    exact ih inside
  | case4 start beyond => exact absurd within beyond

/-- The directories that a search path names. An empty one stands for the working directory. -/
def directories (path : Option Text) : List Text := (path.getD standard).splitOn Byte.colon

theorem find?_of_slash (slash : Byte.slash ∈ command) (path : Option Text) :
    find? files path command = if files.isExecutable command then some command else none := by
  rw [find?, if_neg (List.ne_nil_of_mem slash), if_pos slash]

theorem find?_of_no_slash (named : command ≠ []) (plain : Byte.slash ∉ command)
    (path : Option Text) :
    find? files path command =
      ((directories path).map (fileIn · command)).find? files.isExecutable := by
  rw [find?, if_neg named, if_neg plain, scan_eq_find? (Nat.zero_le _), List.drop_zero, directories]

theorem find?_of_slash_eq_some_iff {file : Text} (slash : Byte.slash ∈ command)
    (path : Option Text) :
    find? files path command = some file ↔ files.Runs file ∧ file = command := by
  rw [find?_of_slash slash, Option.ite_none_right_eq_some, Files.isExecutable_iff,
    Option.some.injEq]
  constructor <;> rintro ⟨runs, rfl⟩ <;> exact ⟨runs, rfl⟩

theorem find?_of_no_slash_eq_some_iff {file : Text} (named : command ≠ [])
    (plain : Byte.slash ∉ command) (path : Option Text) :
    find? files path command = some file ↔
      files.Runs file ∧
        ∃ before directory after, directories path = before ++ directory :: after ∧
          file = fileIn directory command ∧
          ∀ earlier ∈ before, ¬files.Runs (fileIn earlier command) := by
  simp only [← Files.isExecutable_iff]
  rw [find?_of_no_slash named plain, List.find?_map, Option.map_eq_some_iff]
  constructor
  · rintro ⟨directory, first, rfl⟩
    obtain ⟨runs, before, after, whole, none_before⟩ := List.find?_eq_some_iff_append.mp first
    exact ⟨runs, before, directory, after, whole, rfl, fun e member => by
      simpa using none_before e member⟩
  · rintro ⟨runs, before, directory, after, whole, rfl, none_before⟩
    exact ⟨directory, List.find?_eq_some_iff_append.mpr ⟨runs, before, after, whole, fun e member =>
      by simpa using none_before e member⟩, rfl⟩

theorem find?_eq_none_iff (path : Option Text) :
    find? files path command = none ↔
      command = [] ∨ Byte.slash ∈ command ∧ ¬files.Runs command ∨
        Byte.slash ∉ command ∧
          ∀ directory ∈ directories path, ¬files.Runs (fileIn directory command) := by
  by_cases empty : command = []
  · simp [find?, empty]
  by_cases slash : Byte.slash ∈ command
  · rw [find?_of_slash slash]
    simp [empty, slash, Files.isExecutable_iff]
  · rw [find?_of_no_slash empty slash]
    simp [empty, slash, Files.isExecutable_iff]

/-- A command with a slash is the file that it names, if that may be run. Any other is looked for in
the directories of the path, the last of which may be empty; the first is taken in which it is a
regular file that may be run, whatever else has its name in those before. -/
theorem first_runnable_is_found (files : Files) (path : Option Text) (command : Text) :
    (∀ file, find? files path command = some file ↔
      files.Runs file ∧
        (Byte.slash ∈ command ∧ file = command ∨
          command ≠ [] ∧ Byte.slash ∉ command ∧
            ∃ before directory after, directories path = before ++ directory :: after ∧
              file = fileIn directory command ∧
              ∀ earlier ∈ before, ¬files.Runs (fileIn earlier command))) ∧
    (find? files path command = none ↔
      command = [] ∨ Byte.slash ∈ command ∧ ¬files.Runs command ∨
        Byte.slash ∉ command ∧
          ∀ directory ∈ directories path, ¬files.Runs (fileIn directory command)) ∧
    directories none = ["/usr/local/bin", "/usr/bin", "/bin"].map Text.ofString ∧
    (∀ front, directories (some (front ++ [Byte.colon])) = directories (some front) ++ [[]]) ∧
    fileIn [] command = "./" ++ command ∧
    ∀ directory ≠ [], fileIn directory command = directory ++ "/" ++ command := by
  refine ⟨fun file => ?_, find?_eq_none_iff path, by decide, fun front => ?_, rfl,
    fun directory named => by rw [fileIn, if_neg named]⟩
  · by_cases empty : command = []
    · simp [find?, empty]
    by_cases slash : Byte.slash ∈ command
    · rw [find?_of_slash_eq_some_iff slash]
      simp [slash]
    · rw [find?_of_no_slash_eq_some_iff empty slash]
      simp only [slash, empty, false_and, ne_eq, not_false_eq_true, true_and, false_or]
  · simp only [directories, Option.getD_some, List.splitOn_eq_splitOnP]
    exact List.splitOnP_append_cons front [] (by decide)

end SearchPath

end ProviderHost
