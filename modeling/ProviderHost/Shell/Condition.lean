import ProviderHost.Shell.Variable

/-!
# Conditions

What the command `test` decides. A word is an operator only where that leaves a condition: one
that stands between two words compares them, whatever these look like.
-/

namespace ProviderHost.Shell

inductive FileQuestion where
  | exists_ | regular | directory | characterDevice | blockDevice | pipe | socket | link
  | runsAsOwner | runsAsGroup | sticky | notEmpty | owned | readable | writable | executable
  deriving DecidableEq, Repr

inductive Comparison where
  | same | different | before | after
  | equal | unequal | greater | greaterEqual | less | lessEqual
  | newer | older | sameFile
  deriving DecidableEq, Repr

inductive ConditionWord where
  | file (q : FileQuestion)
  | terminal | isEmpty | isFilled
  | compares (c : Comparison)
  | not_ | and_ | or_ | opens | closes
  deriving DecidableEq, Repr

namespace ConditionWord

def all : List (Text × ConditionWord) :=
  [("-r", file .readable), ("-w", file .writable), ("-x", file .executable),
    ("-e", file .exists_), ("-f", file .regular), ("-d", file .directory),
    ("-c", file .characterDevice), ("-b", file .blockDevice), ("-p", file .pipe),
    ("-u", file .runsAsOwner), ("-g", file .runsAsGroup), ("-k", file .sticky),
    ("-s", file .notEmpty), ("-h", file .link), ("-L", file .link), ("-O", file .owned),
    ("-G", file .owned), ("-S", file .socket), ("-t", terminal), ("-z", isEmpty),
    ("-n", isFilled), ("=", compares .same), ("!=", compares .different),
    ("<", compares .before), (">", compares .after), ("-eq", compares .equal),
    ("-ne", compares .unequal), ("-ge", compares .greaterEqual), ("-gt", compares .greater),
    ("-le", compares .lessEqual), ("-lt", compares .less), ("-nt", compares .newer),
    ("-ot", compares .older), ("-ef", compares .sameFile), ("!", not_), ("-a", and_),
    ("-o", or_), ("(", opens), (")", closes)].map
    fun (e : String × ConditionWord) => (Text.ofString e.1, e.2)

def of? (t : Text) : Option ConditionWord := (all.find? fun e => e.1 = t).map (·.2)

def isUnary : ConditionWord → Bool
  | file _ | terminal | isEmpty | isFilled => true
  | _ => false

def isBinary : ConditionWord → Bool
  | compares _ => true
  | _ => false

def first? : List Text → Option ConditionWord
  | [] => none
  | w :: rest =>
    match of? w with
    | none => none
    | some o =>
      let isOperand : Bool :=
        match rest with
        | [] => true
        | [_] => false
        | next :: _ => (of? next).any isBinary
      if o.isUnary ∧ isOperand then none
      else if o = opens ∧ rest = [] then none
      else some o

end ConditionWord

namespace Condition

def holds (q : FileQuestion) : Except SystemFault FileFacts → Bool
  | .error _ => false
  | .ok facts =>
    match q with
    | .exists_ | .owned | .readable | .writable => true
    | .regular => facts.kind = .regular
    | .directory => facts.kind = .directory
    | .characterDevice => facts.kind = .device
    | .blockDevice => false
    | .pipe => facts.kind = .pipe
    | .socket => facts.kind = .socket
    | .link => facts.kind = .link
    | .runsAsOwner => facts.mode &&& 0o4000 ≠ 0
    | .runsAsGroup => facts.mode &&& 0o2000 ≠ 0
    | .sticky => facts.mode &&& 0o1000 ≠ 0
    | .notEmpty => facts.size ≠ 0
    | .executable => facts.kind = .directory ∨ Files.executableMode facts.mode

def file (q : FileQuestion) (path : Text) : Act Bool := do
  if q = .link then return holds q (← Act.call (.statLink path))
  else return holds q (← Act.call (.stat path))

def files (p : FileFacts → FileFacts → Bool) (a b : Text) : Act Bool := do
  match ← Act.call (.stat a) with
  | .error _ => return false
  | .ok x =>
    match ← Act.call (.stat b) with
    | .error _ => return false
    | .ok y => return p x y

def numbers (p : Int → Int → Bool) (a b : Text) : Act Bool := do
  let x ← Act.integer a
  return p x (← Act.integer b)

def compare (c : Comparison) (a b : Text) : Act Bool :=
  match c with
  | .same => return a = b
  | .different => return a ≠ b
  | .before => return textBefore a b
  | .after => return textBefore b a
  | .equal => numbers (· == ·) a b
  | .unequal => numbers (· != ·) a b
  | .greater => numbers (fun x y => decide (y < x)) a b
  | .greaterEqual => numbers (fun x y => decide (y ≤ x)) a b
  | .less => numbers (fun x y => decide (x < y)) a b
  | .lessEqual => numbers (fun x y => decide (x ≤ y)) a b
  | .newer => files (fun x y => decide (y.time < x.time)) a b
  | .older => files (fun x y => decide (x.time < y.time)) a b
  | .sameFile => files (fun x y => x.identity == y.identity) a b

def refuse {α : Type} (w what : Text) : Act α :=
  Act.fail (if w = [] then what else w ++ ": " ++ what)

mutual

/-- Decides a condition; answers with its words but the last one taken away. -/
def disjunction (n : Nat) (o : Option ConditionWord) (words : List Text) :
    Act (Bool × List Text) := do
  match n with
  | 0 => return (false, words)
  | n + 1 =>
    let (a, words) ← conjunction n o words
    if ConditionWord.first? words.tail = some .or_ then
      let words := words.drop 2
      let (b, words) ← disjunction n (ConditionWord.first? words) words
      return (a || b, words)
    else return (a, words)

def conjunction (n : Nat) (o : Option ConditionWord) (words : List Text) :
    Act (Bool × List Text) := do
  match n with
  | 0 => return (false, words)
  | n + 1 =>
    let (a, words) ← negation n o words
    if ConditionWord.first? words.tail = some .and_ then
      let words := words.drop 2
      let (b, words) ← conjunction n (ConditionWord.first? words) words
      return (a && b, words)
    else return (a, words)

def negation (n : Nat) (o : Option ConditionWord) (words : List Text) :
    Act (Bool × List Text) := do
  match n with
  | 0 => return (false, words)
  | n + 1 =>
    if o ≠ some .not_ then primary n o words
    else
      match words.tail with
      | [] => return (true, words)
      | rest =>
        let (a, words) ← negation n (ConditionWord.first? rest) rest
        return (! a, words)

def primary (n : Nat) (o : Option ConditionWord) (words : List Text) :
    Act (Bool × List Text) := do
  match n, words with
  | 0, words => return (false, words)
  | _, [] => return (false, [])
  | n + 1, w :: rest =>
    match o with
    | some .opens =>
      let inner := ConditionWord.first? rest
      if inner = some .closes then return (false, rest)
      let (a, words) ← disjunction n inner rest
      if ConditionWord.first? words.tail ≠ some .closes then refuse [] "closing paren expected"
      return (a, words.tail)
    | _ =>
      match o, rest with
      | some (.file _), [] | some .terminal, [] | some .isEmpty, [] | some .isFilled, [] =>
        refuse w "argument expected"
      | some (.file q), a :: _ => return (← file q a, rest)
      | some .isEmpty, a :: _ => return (a.isEmpty, rest)
      | some .isFilled, a :: _ => return (! a.isEmpty, rest)
      | some .terminal, a :: _ =>
        let _ ← Act.integer a
        return (false, rest)
      | _, rest =>
        match ConditionWord.first? rest, rest with
        | some (.compares _), [_] => refuse (rest.headD []) "argument expected"
        | some (.compares c), _ :: b :: _ => return (← compare c w b, rest.tail)
        | _, _ => return (! w.isEmpty, words)

end

def decideFrom (o : Option ConditionWord) (words : List Text) : Act Bool := do
  let (a, words) ← disjunction (4 * words.length + 4) o words
  match words with
  | w :: _ :: _ => refuse w "unexpected operator"
  | _ => return a

/-- Decides the condition that words are. Three words with a comparison in the middle are just
that; else three or four words may be a condition in parentheses or behind a negation. -/
def decideWords : List Text → Act Bool
  | [] => return false
  | first :: rest => do
    let words := first :: rest
    if words.length = 3 ∧ ((ConditionWord.of? (rest.headD [])).any (·.isBinary)) then
      decideFrom none words
    else if words.length = 3 ∨ words.length = 4 then
      if first = "(" ∧ words.getLast? = some (Text.ofString ")") then
        let inner := rest.dropLast
        decideFrom (ConditionWord.first? inner) inner
      else if first = "!" then return ! (← decideNegated rest)
      else decideFrom (ConditionWord.first? words) words
    else decideFrom (ConditionWord.first? words) words
where
  /-- Decides on the words behind a negation, which a second negation repeats. -/
  decideNegated : List Text → Act Bool
    | [] => return false
    | first :: rest => do
      let words := first :: rest
      if words.length = 3 ∧ ((ConditionWord.of? (rest.headD [])).any (·.isBinary)) then
        decideFrom none words
      else if words.length = 3 then
        if first = "(" ∧ words.getLast? = some (Text.ofString ")") then
          let inner := rest.dropLast
          decideFrom (ConditionWord.first? inner) inner
        else if first = "!" then decideNegated rest
        else decideFrom (ConditionWord.first? words) words
      else decideFrom (ConditionWord.first? words) words

end Condition

end ProviderHost.Shell
