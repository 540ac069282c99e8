import ProviderHost.Environment
import ProviderHost.Proofs.Text.Cutting
import ProviderHost.Proofs.Text.Tables

/-!
# Reading a merged environment

The entries of a table of variables are read back as that table, as long as no name holds an equals
sign. A merged environment is the list of such entries, so that what a child looks up in it is told
by the tables it was made from.
-/

namespace ProviderHost.Environment

/-- The name of an entry: what stands before its first equals sign. -/
def nameOf (item : Text) : Text := (Text.cut Byte.equals item).1

variable {t : Table Text} {item name value : Text}

theorem binding?_eq_some_iff :
    binding? item = some (name, value) ↔ Byte.equals ∉ name ∧ item = name ++ "=" ++ value := by
  have literal : name ++ "=" ++ value = name ++ Byte.equals :: value := List.append_assoc ..
  rw [binding?, literal]
  constructor
  · intro read
    split at read
    · rename_i front rest cuts
      cases read
      exact Text.of_cut_eq_some cuts
    · cases read
  · rintro ⟨plain, rfl⟩
    rw [Text.cut_of_not_mem plain]

theorem nameOf_entry (plain : Byte.equals ∉ name) (value : Text) :
    nameOf (name ++ "=" ++ value) = name := by
  have literal : name ++ "=" ++ value = name ++ Byte.equals :: value := List.append_assoc ..
  rw [nameOf, literal, Text.cut_of_not_mem plain]

def Nameable (t : Table Text) : Prop := ∀ name ∈ t.keys, Byte.equals ∉ name

theorem Nameable.plain (nameable : Nameable t) {e : Text × Text} (member : e ∈ t.entries) :
    Byte.equals ∉ e.1 :=
  nameable e.1 (List.mem_map_of_mem member)

theorem bindings_toEntries (nameable : Nameable t) :
    (toEntries t).filterMap binding? = t.entries :=
  filterMap_map_of_reads fun _ member => binding?_eq_some_iff.mpr ⟨nameable.plain member, rfl⟩

theorem ofEntries_toEntries (nameable : Nameable t) : ofEntries (toEntries t) = t := by
  rw [ofEntries, bindings_toEntries nameable]
  exact Table.ofList_of_perm (List.Perm.refl _)

theorem lookup_toEntries (nameable : Nameable t) (name : Text) :
    lookup (toEntries t) name = t.get? name := by
  rw [lookup, bindings_toEntries nameable, Table.get?]

theorem names_toEntries (nameable : Nameable t) : (toEntries t).map nameOf = t.keys := by
  rw [toEntries, List.map_map, Table.keys]
  exact List.map_congr_left fun e member => nameOf_entry (nameable.plain member) e.2

theorem pairwise_keys (t : Table Text) : t.keys.Pairwise (· < ·) :=
  List.pairwise_map.mpr t.ascending

/-! ### Merging -/

variable {inherited : List Text} {changes : Table Text}

theorem get?_ofEntries (inherited : List Text) (name : Text) :
    (ofEntries inherited).get? name = lastValue? name (inherited.filterMap binding?) :=
  Table.get?_ofList _ name

theorem nameable_ofEntries (inherited : List Text) : Nameable (ofEntries inherited) := by
  intro name member
  obtain ⟨⟨name, value⟩, present, rfl⟩ := List.mem_map.mp member
  have found := Table.get?_eq_some_iff.mpr present
  rw [get?_ofEntries] at found
  obtain ⟨item, -, read⟩ := List.mem_filterMap.mp (mem_of_lastValue? found)
  exact (binding?_eq_some_iff.mp read).1

theorem nameable_union {t u : Table Text} (left : Nameable t) (right : Nameable u) :
    Nameable (t.union u) := by
  intro name member
  obtain ⟨⟨name, value⟩, present, rfl⟩ := List.mem_map.mp member
  have found := Table.get?_eq_some_iff.mpr present
  rw [Table.get?_union] at found
  cases own : u.get? name with
  | some v =>
    have plain := right.plain (Table.get?_eq_some_iff.mp own)
    exact plain
  | none =>
    rw [own] at found
    exact left.plain (Table.get?_eq_some_iff.mp found)

theorem union_union_self (t u : Table Text) : (t.union u).union u = t.union u := by
  refine Table.ext_get? fun key => ?_
  rw [Table.get?_union, Table.get?_union]
  cases u.get? key <;> rfl

/-- A child finds a variable of its definition, else the last one of its name that the host
inherited, and nothing else. Each name stands in the list once, in order, and what is no entry does
not stand there. -/
theorem changes_override_inherited (inherited : List Text) (changes : Table Text)
    (nameable : ∀ name ∈ changes.keys, Byte.equals ∉ name) :
    (∀ item ∈ merge inherited changes,
      ∃ name value, Byte.equals ∉ name ∧ item = name ++ "=" ++ value) ∧
    ((merge inherited changes).map nameOf).Pairwise (· < ·) ∧
    (∀ name, lookup (merge inherited changes) name =
      (changes.get? name <|> lastValue? name (inherited.filterMap binding?))) ∧
    merge (merge inherited changes) changes = merge inherited changes := by
  have whole : Nameable ((ofEntries inherited).union changes) :=
    nameable_union (nameable_ofEntries inherited) nameable
  refine ⟨fun item member => ?_, ?_, fun name => ?_, ?_⟩
  · obtain ⟨e, present, rfl⟩ := List.mem_map.mp member
    exact ⟨e.1, e.2, whole.plain present, rfl⟩
  · rw [merge, names_toEntries whole]
    exact pairwise_keys _
  · rw [merge, lookup_toEntries whole, Table.get?_union, get?_ofEntries]
  · rw [merge, merge, ofEntries_toEntries whole, union_union_self]

/-- What a host might inherit: names that come twice, further equals signs, a text that is no entry
and an entry without a name. -/
def oddEntries : List Text :=
  ["B==x=y", "junk", "A=1", "=z", "A=2"].map Text.ofString

/-- Overrides with an empty value and with one that holds an equals sign. -/
def oddChanges : Table Text :=
  Table.ofList [(Text.ofString "C", Text.ofString "p=q"), (Text.ofString "B", Text.ofString "")]

theorem odd_entries_are_overridden :
    (∀ name ∈ oddChanges.keys, Byte.equals ∉ name) ∧
    merge oddEntries oddChanges = ["=z", "A=2", "B=", "C=p=q"].map Text.ofString ∧
    (["=z", "A=2", "B=", "C=p=q"].map fun item => nameOf (Text.ofString item)).Pairwise (· < ·) ∧
    lookup (merge oddEntries oddChanges) "A" = some (Text.ofString "2") ∧
    merge (merge oddEntries oddChanges) oddChanges = merge oddEntries oddChanges := by
  have nameable : ∀ name ∈ oddChanges.keys, Byte.equals ∉ name := by decide
  have merged : merge oddEntries oddChanges = ["=z", "A=2", "B=", "C=p=q"].map Text.ofString := by
    decide
  obtain ⟨-, increasing, found, again⟩ :=
    changes_override_inherited oddEntries oddChanges nameable
  rw [merged, List.map_map] at increasing
  exact ⟨nameable, merged, increasing, found "A", again⟩

end ProviderHost.Environment
