import ProviderHost.Shell.Number
import ProviderHost.Shell.Syntax

/-!
# Arithmetic

Expressions over 64-bit integers: the usual operators without those that count up and down, and
assignments. An operand that the outcome does not depend on is read but not carried out.
-/

namespace ProviderHost.Shell

inductive BinaryOperator where
  | multiply | divide | remainder | add | subtract | shiftLeft | shiftRight | less | lessEqual
  | greater | greaterEqual | equal | unequal | and | xor | or
  deriving DecidableEq, Repr

namespace BinaryOperator

def rank : BinaryOperator → Nat
  | .multiply | .divide | .remainder => 0
  | .add | .subtract => 1
  | .shiftLeft | .shiftRight => 2
  | .less | .lessEqual | .greater | .greaterEqual => 3
  | .equal | .unequal => 4
  | .and => 5
  | .xor => 6
  | .or => 7

end BinaryOperator

inductive ArithmeticToken where
  | number (n : Int)
  | name (t : Text)
  | binary (op : BinaryOperator)
  /-- Assigns, after an operation with the old value if there is one. -/
  | assign (op : Option BinaryOperator)
  | andAnd | orOr | bang | tilde | open_ | close | question | colon
  | ended
  | bad
  deriving DecidableEq, Repr

inductive ArithmeticFault where
  | malformed (reason : Text)
  | notNumber (value : Text)
  | overflow
  deriving DecidableEq, Repr

/-- An expression that is being evaluated. -/
structure Evaluation where
  rest : Text
  last : ArithmeticToken := .ended
  lookup : Text → Option Text
  /-- What was assigned, the latest first. -/
  assigned : List (Text × Int) := []

abbrev Evaluate := EStateM ArithmeticFault Evaluation

namespace Evaluate

def fail {α : Type} (reason : Text) : Evaluate α := throw (.malformed reason)

def ofBool (b : Bool) : Int := if b then 1 else 0

def bits (n : Int) : Nat := (n % 18446744073709551616).toNat

def operate (op : BinaryOperator) (a b : Int) : Evaluate Int :=
  match op with
  | .multiply => pure (wrap (a * b))
  | .divide =>
    if b = 0 then fail "division by zero"
    else if a = least ∧ b = -1 then throw .overflow
    else pure (Int.tdiv a b)
  | .remainder =>
    if b = 0 then fail "division by zero"
    else if a = least ∧ b = -1 then throw .overflow
    else pure (Int.tmod a b)
  | .add => pure (wrap (a + b))
  | .subtract => pure (wrap (a - b))
  | .shiftLeft => pure (wrap (a * ((1 <<< (bits b % 64) : Nat) : Int)))
  | .shiftRight => pure (Int.fdiv a ((1 <<< (bits b % 64) : Nat) : Int))
  | .less => pure (ofBool (a < b))
  | .lessEqual => pure (ofBool (a ≤ b))
  | .greater => pure (ofBool (b < a))
  | .greaterEqual => pure (ofBool (b ≤ a))
  | .equal => pure (ofBool (a = b))
  | .unequal => pure (ofBool (a ≠ b))
  | .and => pure (wrap ((bits a &&& bits b : Nat) : Int))
  | .xor => pure (wrap ((bits a ^^^ bits b : Nat) : Int))
  | .or => pure (wrap ((bits a ||| bits b : Nat) : Int))

/-- The tokens of more than a byte, and those of one, the longest first. -/
def signs : List (Text × ArithmeticToken) :=
  [("<<=", .assign (some .shiftLeft)), (">>=", .assign (some .shiftRight)),
    ("==", .binary .equal), ("!=", .binary .unequal), ("<=", .binary .lessEqual),
    (">=", .binary .greaterEqual), ("<<", .binary .shiftLeft), (">>", .binary .shiftRight),
    ("||", .orOr), ("&&", .andAnd), ("|=", .assign (some .or)), ("&=", .assign (some .and)),
    ("*=", .assign (some .multiply)), ("/=", .assign (some .divide)),
    ("%=", .assign (some .remainder)), ("+=", .assign (some .add)),
    ("-=", .assign (some .subtract)), ("^=", .assign (some .xor)), ("=", .assign none),
    ("<", .binary .less), (">", .binary .greater), ("|", .binary .or), ("&", .binary .and),
    ("!", .bang), ("(", .open_), (")", .close), ("*", .binary .multiply), ("/", .binary .divide),
    ("%", .binary .remainder), ("+", .binary .add), ("-", .binary .subtract), ("~", .tilde),
    ("^", .binary .xor), ("?", .question),
    (":", .colon)].map fun (e : String × ArithmeticToken) => (Text.ofString e.1, e.2)

def token (t : Text) : ArithmeticToken × Text :=
  let t := t.dropWhile fun b => b == Byte.space || b == Byte.tab || b == Byte.newline
  match t with
  | [] => (.ended, [])
  | b :: _ =>
    if Byte.isDigit b then
      let n := Numeral.read 0 t
      (.number n.value, n.rest)
    else if Word.isNameStart b then (.name (t.takeWhile Word.isNameByte), t.dropWhile Word.isNameByte)
    else
      match signs.findSome? fun s => (Text.after? s.1 t).map fun rest => (s.2, rest) with
      | some found => found
      | none => (.bad, t)

def next : Evaluate ArithmeticToken := modifyGet fun e =>
  let (t, rest) := token e.rest
  (t, { e with rest := rest })

def setLast (t : ArithmeticToken) : Evaluate Unit := modify fun e => { e with last := t }

def value (name : Text) : Evaluate Int := do
  let e ← get
  match e.assigned.find? fun a => a.1 = name with
  | some (_, n) => return n
  | none =>
    let t := (e.lookup name).getD []
    let n := Numeral.read 0 t
    if n.tooGreat ∨ ¬ n.rest.all ByteClass.isSpace then throw (.notNumber t)
    return n.value

def assign (name : Text) (n : Int) : Evaluate Unit :=
  modify fun e => { e with assigned := (name, n) :: e.assigned }

mutual

/-- An operand, its first token and the one behind that having been read; `idle` says that it is
not carried out. -/
def primary (n : Nat) (t follow : ArithmeticToken) (idle : Bool) : Evaluate Int := do
  match n with
  | 0 => fail "expecting primary"
  | n + 1 =>
    match t with
    | .open_ =>
      let a ← assignment n follow idle
      if (← get).last ≠ .close then fail "expecting ')'"
      setLast (← next)
      return a
    | .number a =>
      setLast follow
      return a
    | .name name =>
      setLast follow
      if idle then return 0 else value name
    | .binary .add => primary n follow (← next) idle
    | .binary .subtract => return wrap (-(← primary n follow (← next) idle))
    | .bang => return ofBool ((← primary n follow (← next) idle) = 0)
    | .tilde => return -(← primary n follow (← next) idle) - 1
    | _ => fail "expecting primary"

def operations (n : Nat) (a : Int) (op : BinaryOperator) (rank : Nat) (idle : Bool) :
    Evaluate Int := do
  match n with
  | 0 => fail "expecting primary"
  | n + 1 =>
    let t ← next
    let b ← primary n t (← next) idle
    let b ← do
      match (← get).last with
      | .binary tighter =>
        if tighter.rank < op.rank then operations n b tighter op.rank idle else pure b
      | _ => pure b
    let a ← if idle then pure b else operate op a b
    match (← get).last with
    | .binary following =>
      if rank ≤ following.rank then return a else operations n a following rank idle
    | _ => return a

def conjunction (n : Nat) (t follow : ArithmeticToken) (idle : Bool) : Evaluate Int := do
  match n with
  | 0 => fail "expecting primary"
  | n + 1 =>
    let a ← primary n t follow idle
    let a ← do
      match (← get).last with
      | .binary op => operations n a op 8 idle
      | _ => pure a
    if (← get).last = .andAnd then
      let t ← next
      let b ← conjunction n t (← next) (idle || a == 0)
      return ofBool (a ≠ 0 ∧ b ≠ 0)
    else return a

def disjunction (n : Nat) (t follow : ArithmeticToken) (idle : Bool) : Evaluate Int := do
  match n with
  | 0 => fail "expecting primary"
  | n + 1 =>
    let a ← conjunction n t follow idle
    if (← get).last = .orOr then
      let t ← next
      let b ← disjunction n t (← next) (idle || a != 0)
      return ofBool (a ≠ 0 ∨ b ≠ 0)
    else return a

def conditional (n : Nat) (t follow : ArithmeticToken) (idle : Bool) : Evaluate Int := do
  match n with
  | 0 => fail "expecting primary"
  | n + 1 =>
    let a ← disjunction n t follow idle
    if (← get).last = .question then
      let b ← assignment n (← next) (idle || a == 0)
      if (← get).last ≠ .colon then fail "expecting ':'"
      let t ← next
      let c ← conditional n t (← next) (idle || a != 0)
      return if a ≠ 0 then b else c
    else return a

def assignment (n : Nat) (t : ArithmeticToken) (idle : Bool) : Evaluate Int := do
  match n with
  | 0 => fail "expecting primary"
  | n + 1 =>
    let follow ← next
    match t, follow with
    | .name name, .assign op =>
      let b ← assignment n (← next) idle
      if idle then return b
      let b ← do
        match op with
        | none => pure b
        | some op => operate op (← value name) b
      assign name b
      return b
    | t, follow => conditional n t follow idle

end

def whole (n : Nat) : Evaluate Int := do
  let a ← assignment n (← next) false
  if (← get).last ≠ .ended then fail "expecting EOF"
  return a

def run (lookup : Text → Option Text) (t : Text) :
    Except ArithmeticFault Int × List (Text × Int) :=
  match whole (8 * t.length + 8) { rest := t, lookup := lookup } with
  | .ok a e => (.ok a, e.assigned.reverse)
  | .error cause e => (.error cause, e.assigned.reverse)

end Evaluate

end ProviderHost.Shell
