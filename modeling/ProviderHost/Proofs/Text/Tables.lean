import ProviderHost.Text.Table

/-!
# Tables that are made from lists

A list of entries may name a key more than once. In the table of the list the last value of a key
counts (`get?_ofList`), so the order of entries with different keys does not matter, and an entry
whose key comes again later does not either.
-/

namespace ProviderHost

section

variable {α β : Type} [DecidableEq α]

/-- The last value that a list of entries gives for a key. -/
def lastValue? (key : α) (entries : List (α × β)) : Option β :=
  ((entries.filter (·.1 = key)).getLast?).map (·.2)

variable {key : α} {value : β} {entries more : List (α × β)}

theorem lastValue?_append :
    lastValue? key (entries ++ more) = (lastValue? key more <|> lastValue? key entries) := by
  unfold lastValue?
  rw [List.filter_append, List.getLast?_append]
  cases (more.filter (·.1 = key)).getLast? <;> rfl

theorem lastValue?_cons (e : α × β) :
    lastValue? key (e :: entries) =
      (lastValue? key entries <|> if e.1 = key then some e.2 else none) := by
  have split : lastValue? key ([e] ++ entries) = _ := lastValue?_append
  refine split.trans (congrArg _ ?_)
  unfold lastValue?
  by_cases same : e.1 = key <;> simp [same]

theorem mem_of_lastValue? (last : lastValue? key entries = some value) :
    (key, value) ∈ entries := by
  obtain ⟨⟨k, v⟩, final, rfl⟩ := Option.map_eq_some_iff.mp last
  have member := List.mem_filter.mp (List.mem_of_getLast? final)
  obtain rfl : k = key := by simpa using member.2
  exact member.1

theorem exists_lastValue? (member : (key, value) ∈ entries) :
    ∃ v, lastValue? key entries = some v := by
  have given : (key, value) ∈ entries.filter (·.1 = key) := by simpa using member
  rw [lastValue?, List.getLast?_eq_some_getLast (List.ne_nil_of_mem given)]
  exact ⟨_, rfl⟩

theorem lastValue?_eq_none (never : ∀ v, (key, v) ∉ entries) : lastValue? key entries = none := by
  cases last : lastValue? key entries with
  | none => rfl
  | some v => exact absurd (mem_of_lastValue? last) (never v)

theorem lastValue?_eq_some_iff (distinct : entries.Pairwise fun a b => a.1 ≠ b.1) :
    lastValue? key entries = some value ↔ (key, value) ∈ entries := by
  refine ⟨mem_of_lastValue?, fun member => ?_⟩
  induction entries with
  | nil => cases member
  | cons e entries ih =>
    obtain ⟨apart, distinct⟩ := List.pairwise_cons.mp distinct
    rw [lastValue?_cons]
    rcases List.mem_cons.mp member with rfl | member
    · have never : ∀ v, (key, v) ∉ entries := fun v later => apart _ later rfl
      rw [lastValue?_eq_none never, if_pos rfl]
      rfl
    · rw [ih distinct member]
      rfl

/-- An entry whose key comes again later does not show. -/
theorem lastValue?_of_overridden (k : α) (old new : β) (front middle rest : List (α × β)) :
    lastValue? k (front ++ (key, old) :: (middle ++ (key, new) :: rest)) =
      lastValue? k (front ++ (middle ++ (key, new) :: rest)) := by
  rw [lastValue?_append, lastValue?_append, lastValue?_cons]
  by_cases same : key = k
  · simp only [lastValue?_append, lastValue?_cons, same, if_true]
    cases lastValue? k rest <;> rfl
  · rw [if_neg same]
    cases lastValue? k (middle ++ (key, new) :: rest) <;> rfl

end

/-- What each entry is written as is read back, and so is the whole list. -/
theorem filterMap_map_of_reads {α β : Type} {print : α → β} {read : β → Option α} {entries : List α}
    (reads : ∀ e ∈ entries, read (print e) = some e) :
    (entries.map print).filterMap read = entries := by
  induction entries with
  | nil => rfl
  | cons e entries ih =>
    obtain ⟨first, later⟩ := List.forall_mem_cons.mp reads
    rw [List.map_cons, List.filterMap_cons_some first, ih later]

namespace Table

variable {β : Type}

theorem distinct {entries : List (Text × β)} (ascending : Ascending entries) :
    entries.Pairwise fun a b => a.1 ≠ b.1 := by
  refine List.Pairwise.imp (fun {a b} before same => ?_) ascending
  rw [same] at before
  exact List.lt_irrefl _ before

theorem get?_eq_some_iff {t : Table β} {key : Text} {value : β} :
    t.get? key = some value ↔ (key, value) ∈ t.entries := by
  unfold get?
  constructor
  · intro found
    obtain ⟨⟨k, v⟩, first, rfl⟩ := Option.map_eq_some_iff.mp found
    obtain rfl : k = key := by simpa using List.find?_some first
    exact List.mem_of_find?_eq_some first
  · intro member
    have apart := distinct t.ascending
    generalize t.entries = entries at apart member ⊢
    induction entries with
    | nil => cases member
    | cons e entries ih =>
      obtain ⟨head, apart⟩ := List.pairwise_cons.mp apart
      rcases List.mem_cons.mp member with rfl | member
      · simp
      · have other : e.1 ≠ key := head _ member
        rw [List.find?_cons_of_neg (by simpa using other)]
        exact ih apart member

theorem ext_get? {s t : Table β} (same : ∀ key, s.get? key = t.get? key) : s = t := by
  have members : ∀ e, e ∈ s.entries ↔ e ∈ t.entries := by
    rintro ⟨key, value⟩
    rw [← get?_eq_some_iff, ← get?_eq_some_iff, same]
  have nodup (u : Table β) : u.entries.Nodup :=
    (distinct u.ascending).imp fun apart equal => apart (congrArg Prod.fst equal)
  have perm := (List.perm_ext_iff_of_nodup (nodup s) (nodup t)).mpr members
  have entries : s.entries = t.entries :=
    perm.eq_of_pairwise (fun a b _ _ before after => absurd after (List.lt_asymm before))
      s.ascending t.ascending
  cases s
  cases t
  cases entries
  rfl

theorem get?_foldl_insert (entries : List (Text × β)) (t : Table β) (key : Text) :
    (entries.foldl (fun t e => t.insert e.1 e.2) t).get? key =
      (lastValue? key entries <|> t.get? key) := by
  induction entries generalizing t with
  | nil => rfl
  | cons e entries ih =>
    rw [List.foldl_cons, ih, get?_insert, lastValue?_cons]
    cases lastValue? key entries
    · split <;> rfl
    · rfl

theorem get?_union (t u : Table β) (key : Text) :
    (t.union u).get? key = (u.get? key <|> t.get? key) := by
  have own : lastValue? key u.entries = u.get? key := Option.ext fun value => by
    rw [lastValue?_eq_some_iff (distinct u.ascending), get?_eq_some_iff]
  rw [union, get?_foldl_insert, own]

theorem get?_ofList (entries : List (Text × β)) (key : Text) :
    (ofList entries).get? key = lastValue? key entries := by
  refine (get?_foldl_insert entries empty key).trans ?_
  cases lastValue? key entries <;> rfl

theorem ofList_of_perm {entries : List (Text × β)} {t : Table β}
    (perm : entries.Perm t.entries) : ofList entries = t := by
  have apart : entries.Pairwise fun a b => a.1 ≠ b.1 :=
    (perm.pairwise_iff fun other => other.symm).mpr (distinct t.ascending)
  refine ext_get? fun key => Option.ext fun value => ?_
  rw [get?_ofList, lastValue?_eq_some_iff apart, get?_eq_some_iff, perm.mem_iff]

/-- An entry whose key comes again later does not count. -/
theorem ofList_of_overridden (key : Text) (old new : β) (front middle rest : List (Text × β)) :
    ofList (front ++ (key, old) :: (middle ++ (key, new) :: rest)) =
      ofList (front ++ (middle ++ (key, new) :: rest)) := by
  refine ext_get? fun k => ?_
  rw [get?_ofList, get?_ofList, lastValue?_of_overridden]

end Table

end ProviderHost
