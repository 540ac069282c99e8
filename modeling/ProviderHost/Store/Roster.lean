import ProviderHost.Store

/-!
# Rosters

The plainest document: a table of definitions without a text form. A host that keeps rosters
starts from an empty registry and refuses every file that is there already.
-/

namespace ProviderHost

/-- A document that is only kept in memory. -/
structure Roster where
  providers : Table Definition := .empty
  deriving DecidableEq

instance : Document Roster where
  blank := {}
  read? _ := none
  print _ := []
  ids r := r.providers.keys
  definition? id r := (r.providers.get? id).map .ok
  status? id r := (r.providers.get? id).map (·.status)
  put d r := { providers := r.providers.insert d.id d }
  erase id r := { providers := r.providers.erase id }
  setStatus id status r :=
    match r.providers.get? id with
    | some d => { providers := r.providers.insert id { d with status := status } }
    | none => r

end ProviderHost
