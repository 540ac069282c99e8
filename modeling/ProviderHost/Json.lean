import ProviderHost.Text.Decimal
import ProviderHost.Text.Table

/-!
# Printing JSON

The values in which the command line answers, printed over several lines with an indentation of
two blanks. The members of an object come in increasing order of their names.
-/

namespace ProviderHost

inductive Json where
  | text (t : Text)
  | number (digits : Text)
  | bool (b : Bool)
  | list (items : List Json)
  | object (members : List (Text × Json))

namespace Json

def member (name : String) (value : Json) : Text × Json := (name, value)

/-- The object of some members; of two with one name the later counts. -/
def ofMembers (members : List (Text × Json)) : Json := .object (Table.ofList members).entries

def texts (items : List Text) : Json := .list (items.map .text)

def escapeByte (b : UInt8) : Text :=
  if b = Byte.quote ∨ b = Byte.backslash then [Byte.backslash, b]
  else if b = 8 then "\\b"
  else if b = Byte.tab then "\\t"
  else if b = Byte.newline then "\\n"
  else if b = 12 then "\\f"
  else if b = Byte.carriageReturn then "\\r"
  else if b < 32 then
    "\\u00" ++ [48 + b / 16, if b % 16 < 10 then 48 + b % 16 else 87 + b % 16]
  else [b]

def quote (t : Text) : Text := "\"" ++ t.flatMap escapeByte ++ "\""

def lineBreak (depth : Nat) : Text := Byte.newline :: List.replicate (2 * depth) Byte.space

mutual

/-- A value whose first line was begun at some depth. -/
def render (depth : Nat) : Json → Text
  | .text t => quote t
  | .number digits => digits
  | .bool true => "true"
  | .bool false => "false"
  | .list [] => "[]"
  | .list (item :: items) =>
    "[" ++ lineBreak (depth + 1) ++ render (depth + 1) item ++ renderItems (depth + 1) items ++
      lineBreak depth ++ "]"
  | .object [] => "\x7b\x7d"
  | .object (member :: members) =>
    "\x7b" ++ lineBreak (depth + 1) ++ renderMember (depth + 1) member ++
      renderMembers (depth + 1) members ++ lineBreak depth ++ "\x7d"

def renderItems (depth : Nat) : List Json → Text
  | [] => []
  | item :: items => "," ++ lineBreak depth ++ render depth item ++ renderItems depth items

def renderMember (depth : Nat) : Text × Json → Text
  | (name, value) => quote name ++ ": " ++ render depth value

def renderMembers (depth : Nat) : List (Text × Json) → Text
  | [] => []
  | member :: members =>
    "," ++ lineBreak depth ++ renderMember depth member ++ renderMembers depth members

end

def print (j : Json) : Text := j.render 0 ++ [Byte.newline]

end Json

end ProviderHost
