import ProviderHost.Shell.Declaration
import ProviderHost.Shell.Job
import ProviderHost.Shell.Setting

/-!
# Parameters and input

Commands that set the parameters of a script, take options from them, and read lines into
variables.
-/

namespace ProviderHost.Shell

namespace Act

def setCommand (args : List Text) : Act Nat := do
  if args = [] then listVariables [] (·.value.isSome)
  else
    let r ← setOptions false (args.length + 1) { rest := args }
    settleSettings
    if r.rest ≠ [] ∨ r.clears then setParameters r.rest
    return 0

def shift (args : List Text) : Act Nat := do
  let n ← match args with
    | [] => pure 1
    | t :: _ => number t
  let s ← get
  if s.parameters.length < n then fail "can't shift that many"
  setParameters (s.parameters.drop n)
  return 0

/-! ### Options of a script -/

structure ScriptOption where
  name : UInt8 := 63
  argument : Option (Option Text) := none
  complaint : Option Text := none
  index : Nat
  offset : Option Nat := none
  ended : Bool := false

def scriptOption (known : Text) (args : List Text) (o : OptionReader) : ScriptOption :=
  let silent := known.head? = some Byte.colon
  let before : Option Text := args[o.index - 2]?
  let left : Text :=
    match o.offset, before with
    | some n, some a => if o.index ≤ 1 ∨ a.length < n then [] else a.drop n
    | _, _ => []
  let start : Option (Text × Nat) :=
    if left ≠ [] then some (left, o.index)
    else
      match args[o.index - 1]? with
      | some (45 :: c :: rest) =>
        if c = 45 ∧ rest = [] then none else some (c :: rest, o.index + 1)
      | _ => none
  match start with
  | none =>
    let skips := left = [] ∧ args[o.index - 1]? = some (Text.ofString "--")
    { index := if skips then o.index + 1 else o.index, ended := true }
  | some ([], index) => { index := index, ended := true }
  | some (c :: rest, index) =>
    let offset : Option Nat := (args[index - 2]?).map fun a => a.length - rest.length
    match Argument.letter? c known with
    | none =>
      { index := index, offset := offset
        argument := some (if silent then some [c] else none)
        complaint := if silent then none else some ("Illegal option -" ++ [c] ++ "\n") }
    | some false => { name := c, index := index, offset := offset, argument := some (some []) }
    | some true =>
      match rest, args[index - 1]? with
      | _ :: _, _ => { name := c, index := index, argument := some (some rest) }
      | [], some a => { name := c, index := index + 1, argument := some (some a) }
      | [], none =>
        { name := if silent then Byte.colon else 63, index := index
          argument := some (if silent then some [c] else none)
          complaint := if silent then none else some ("No arg for -" ++ [c] ++ " option\n") }

/-- Takes the next option from the parameters of a script or from other arguments. -/
def getopts (args : List Text) : Act Nat := do
  match ← operands args with
  | known :: name :: rest =>
    let s ← get
    let from_ := if rest = [] then s.parameters else rest
    let o := s.options
    let o : OptionReader := if from_.length + 1 < o.index then {} else o
    let found := scriptOption known from_ o
    match found.complaint with
    | some t => say t
    | none => pure ()
    match found.argument with
    | some (some t) => assign "OPTARG" t
    | some none => unsetVariable "OPTARG"
    | none => pure ()
    assign State.optionIndex (Text.ofNat found.index)
    assign name [found.name]
    modify fun s =>
      { s with options := { index := found.index, offset := found.offset } }
    return if found.ended then 1 else 0
  | _ => fail "Usage: getopts optstring var [arg...]"

/-! ### Reading lines -/

/-- A line that is being read. -/
structure InputLine where
  /-- Its pieces, the latest first. -/
  pieces : List Piece := []
  /-- The bytes of the next piece, in reverse. -/
  current : List Cell := []
  escaped : Bool := false

namespace InputLine

def put (l : InputLine) (b : UInt8) : InputLine := { l with current := .byte b false :: l.current }

def finish (l : InputLine) : InputLine :=
  { l with pieces := ⟨.atSeparators, l.current.reverse⟩ :: l.pieces, current := [], escaped := false }

/-- Takes in a byte behind a backslash, at which the line is not split. A newline there joins two
lines. -/
def putEscaped (l : InputLine) (b : UInt8) : InputLine :=
  let l := l.finish
  if b = Byte.newline then l
  else { l with pieces := ⟨.nowhere, [.byte b false]⟩ :: l.pieces }

def all (l : InputLine) : List Piece := l.finish.pieces.reverse

end InputLine

/-- Reads a line, and answers the status that tells of the end of the input. In a raw line,
backslashes mean nothing. -/
def readInput (raw : Bool) : Act (List Piece × Nat) :=
  iterate (fun (l : InputLine) => do
    match ← call (.read 0 1) with
    | .ok [b] =>
      if b = 0 then return .inl l
      else if l.escaped then return .inl (l.putEscaped b)
      else if ¬ raw ∧ b = Byte.backslash then return .inl { l with escaped := true }
      else if b = Byte.newline then return .inr (l.all, 0)
      else return .inl (l.put b)
    | .error .interrupted =>
      notice
      if (← get).latest.isSome then return .inr (l.all, 1) else return .inl l
    | _ => return .inr (l.all, 1)) limit {}

/-- Sets variables to fields, one after the other; those without a field become empty. -/
def assignFields : List Text → List Field → Act Unit
  | [], _ => return
  | name :: names, [] => do
    assign name []
    assignFields names []
  | name :: names, f :: fields => do
    assign name (Field.text f)
    assignFields names fields

def readCommand (args : List Text) : Act Nat := do
  let (given, names) ← options "p:r" args
  if names = [] then fail "arg count"
  let (line, status) ← readInput (given.any (·.letter == 114))
  let separators := (← get).separators
  assignFields names (Field.split separators (some names.length) line)
  return status

end Act

end ProviderHost.Shell
