import ProviderHost.Text

/-!
# Tables keyed by text

A table holds at most one value for a key and lists its entries in increasing order of the
keys' bytes. `get?_insert` says what a later reader of a table finds.
-/

namespace ProviderHost

namespace Text

theorem lt_trichotomy (s t : Text) : s < t ∨ s = t ∨ t < s := by
  by_cases h : s < t
  · exact .inl h
  · by_cases h' : t < s
    · exact .inr (.inr h')
    · exact .inr (.inl (List.le_antisymm (List.not_lt.1 h') (List.not_lt.1 h)))

end Text

def Ascending {β : Type} (entries : List (Text × β)) : Prop :=
  entries.Pairwise fun a b => a.1 < b.1

/-- At most one value for each key, in increasing order of the keys. -/
structure Table (β : Type) where
  entries : List (Text × β)
  ascending : Ascending entries

namespace Table

variable {β : Type}

def empty : Table β := ⟨[], List.Pairwise.nil⟩

instance : Inhabited (Table β) := ⟨empty⟩

instance [DecidableEq β] : DecidableEq (Table β) := fun s t =>
  if h : s.entries = t.entries then
    .isTrue (by cases s; cases t; simp_all)
  else
    .isFalse (by rintro rfl; exact h rfl)

def insertInto (key : Text) (value : β) : List (Text × β) → List (Text × β)
  | [] => [(key, value)]
  | (k, v) :: rest =>
    if key < k then (key, value) :: (k, v) :: rest
    else if key = k then (key, value) :: rest
    else (k, v) :: insertInto key value rest

theorem mem_insertInto {key : Text} {value : β} {entries : List (Text × β)} {e : Text × β}
    (h : e ∈ insertInto key value entries) : e = (key, value) ∨ e ∈ entries := by
  induction entries with
  | nil => simpa [insertInto] using h
  | cons a rest ih =>
    unfold insertInto at h
    split at h
    · simpa using h
    · split at h
      · rcases List.mem_cons.1 h with h | h
        · exact .inl h
        · exact .inr (List.mem_cons_of_mem _ h)
      · rcases List.mem_cons.1 h with h | h
        · exact .inr (h ▸ List.mem_cons_self)
        · exact (ih h).imp_right (List.mem_cons_of_mem _)

theorem ascending_insertInto {key : Text} {value : β} {entries : List (Text × β)}
    (h : Ascending entries) : Ascending (insertInto key value entries) := by
  unfold Ascending at h ⊢
  induction entries with
  | nil => simp [insertInto]
  | cons a rest ih =>
    obtain ⟨ha, hrest⟩ := List.pairwise_cons.1 h
    unfold insertInto
    split
    · rename_i hlt
      refine List.pairwise_cons.2 ⟨fun e he => ?_, h⟩
      rcases List.mem_cons.1 he with rfl | he
      · exact hlt
      · exact List.lt_trans hlt (ha e he)
    · rename_i hlt
      split
      · rename_i heq
        exact List.pairwise_cons.2 ⟨fun e he => heq ▸ ha e he, hrest⟩
      · rename_i hne
        refine List.pairwise_cons.2 ⟨fun e he => ?_, ih hrest⟩
        rcases mem_insertInto he with rfl | he
        · rcases Text.lt_trichotomy key a.1 with h | h | h
          · exact absurd h hlt
          · exact absurd h hne
          · exact h
        · exact ha e he

def insert (key : Text) (value : β) (t : Table β) : Table β :=
  ⟨insertInto key value t.entries, ascending_insertInto t.ascending⟩

def erase (key : Text) (t : Table β) : Table β :=
  ⟨t.entries.filter fun e => e.1 ≠ key, t.ascending.filter _⟩

def get? (key : Text) (t : Table β) : Option β := (t.entries.find? fun e => e.1 = key).map (·.2)

def contains (key : Text) (t : Table β) : Bool := (t.get? key).isSome

def keys (t : Table β) : List Text := t.entries.map (·.1)

/-- The table of the entries of a list, the last value given for a key being kept. -/
def ofList (entries : List (Text × β)) : Table β :=
  entries.foldl (fun t e => t.insert e.1 e.2) empty

def union (t u : Table β) : Table β := u.entries.foldl (fun t e => t.insert e.1 e.2) t

theorem find?_insertInto (key k : Text) (value : β) (entries : List (Text × β)) :
    ((insertInto key value entries).find? fun e => e.1 = k) =
      if key = k then some (key, value) else entries.find? fun e => e.1 = k := by
  induction entries with
  | nil => by_cases h : key = k <;> simp [insertInto, h]
  | cons a rest ih =>
    unfold insertInto
    split
    · by_cases h : key = k <;> simp [h]
    · split
      · rename_i heq
        by_cases h : key = k
        · simp [h]
        · have : ¬ a.1 = k := heq ▸ h
          simp [h, this]
      · rename_i hne
        rw [List.find?_cons, ih]
        by_cases h : key = k
        · have : ¬ a.1 = k := fun h' => hne (h.trans h'.symm)
          simp [h, this]
        · simp [h, List.find?_cons]

/-- What is found after an insertion: the new value at its key, and all else as before. -/
theorem get?_insert (t : Table β) (key k : Text) (value : β) :
    (t.insert key value).get? k = if key = k then some value else t.get? k := by
  unfold get? insert
  rw [find?_insertInto]
  split <;> rfl

theorem insertInto_of_mem {key : Text} {value : β} {entries : List (Text × β)}
    (h : Ascending entries) (present : (key, value) ∈ entries) :
    insertInto key value entries = entries := by
  induction entries with
  | nil => cases present
  | cons a rest ih =>
    obtain ⟨ha, hrest⟩ := List.pairwise_cons.1 h
    rcases List.mem_cons.1 present with rfl | later
    · simp [insertInto, List.lt_irrefl]
    · have before : a.1 < key := ha _ later
      have notBefore : ¬ key < a.1 := List.lt_asymm before
      have other : ¬ key = a.1 := fun same => List.lt_irrefl key (same ▸ before)
      simp [insertInto, notBefore, other, ih hrest later]

/-- Inserting what is there already changes nothing. -/
theorem insert_of_get? {t : Table β} {key : Text} {value : β} (found : t.get? key = some value) :
    t.insert key value = t := by
  obtain ⟨⟨k, v⟩, present, rfl⟩ := Option.map_eq_some_iff.1 found
  obtain rfl : k = key := by simpa using List.find?_some present
  have same := insertInto_of_mem t.ascending (List.mem_of_find?_eq_some present)
  cases t
  simp only [insert, same]

@[simp] theorem get?_empty (k : Text) : (empty : Table β).get? k = none := rfl

theorem get?_erase (t : Table β) (key k : Text) :
    (t.erase key).get? k = if key = k then none else t.get? k := by
  unfold get? erase
  by_cases h : key = k
  · subst h
    simp
  · simp only [h, if_false]
    congr 1
    induction t.entries with
    | nil => rfl
    | cons a rest ih =>
      by_cases ha : a.1 = key
      · have : ¬ a.1 = k := fun h' => h (ha.symm.trans h')
        simpa [ha, h] using ih
      · by_cases hk : a.1 = k
        · simp [hk, Ne.symm h]
        · simp only [List.filter_cons, ha, ne_eq, not_false_eq_true, decide_true, if_true,
            List.find?_cons, hk, decide_false]
          exact ih

end Table

end ProviderHost
