import ProviderHost.Text.Table

/-!
# The environment of a child

A child sees the environment that the host inherited with the variables of its definition on
top. `Environment.merge` lists every name once, in increasing order.
-/

namespace ProviderHost.Environment

/-- The name and the value of an entry `NAME=VALUE`, cut at the first equals sign. -/
def binding? (item : Text) : Option (Text × Text) :=
  match Text.cut Byte.equals item with
  | (name, some value) => some (name, value)
  | (_, none) => none

/-- The variables of a list of entries; entries without an equals sign say nothing. -/
def ofEntries (items : List Text) : Table Text := Table.ofList (items.filterMap binding?)

def toEntries (t : Table Text) : List Text := t.entries.map fun e => e.1 ++ "=" ++ e.2

/-- The inherited entries with the variables of `changes` in place of their own. -/
def merge (inherited : List Text) (changes : Table Text) : List Text :=
  toEntries ((ofEntries inherited).union changes)

/-- The value of a variable in a list of entries: that of the first entry with its name. -/
def lookup (items : List Text) (name : Text) : Option Text :=
  ((items.filterMap binding?).find? fun e => e.1 = name).map (·.2)

end ProviderHost.Environment
