import ProviderHost.Text

/-!
# Random identifiers

Identifiers are hexadecimal digits drawn by the caller, in groups of fixed length.
-/

namespace ProviderHost.Identifier

def hexDigit (n : Fin 16) : UInt8 := if n.val < 10 then 48 + n.val.toUInt8 else 87 + n.val.toUInt8

/-- The digits of the draws from number `first` on; none for a negative length. -/
def hex (draw : Nat → Fin 16) (first : Nat) (length : Int) : Text :=
  (List.range length.toNat).map fun i => hexDigit (draw (first + i))

def provider (draw : Nat → Fin 16) : Text := "prov-" ++ hex draw 0 8

/-- The id of a connection: groups of 8, 4, 4, 4 and 12 digits. -/
def client (draw : Nat → Fin 16) : Text :=
  hex draw 0 8 ++ "-" ++ hex draw 8 4 ++ "-" ++ hex draw 12 4 ++ "-" ++ hex draw 16 4 ++ "-" ++
    hex draw 20 12

def toolCall (draw : Nat → Fin 16) : Text := "call-" ++ client draw

end ProviderHost.Identifier
