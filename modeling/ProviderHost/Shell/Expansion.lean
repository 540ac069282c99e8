import ProviderHost.Shell.Arithmetic
import ProviderHost.Shell.Job
import ProviderHost.Shell.Variable

/-!
# Expansion

What becomes of a word: parameters, commands and arithmetic are replaced by their values, the
outcome is split into fields, and fields that are patterns are replaced by the paths that they
fit.
-/

namespace ProviderHost.Shell

namespace Expansion

/-! ### Parameters -/

def joined (between : List Cell) (quoted : Bool) : List Text → List Cell
  | [] => []
  | [t] => cellsOf quoted t
  | t :: rest => cellsOf quoted t ++ between ++ joined between quoted rest

def separator (s : State) (quoted splits : Bool) : List Cell :=
  if splits ∧ ¬ quoted then
    [.byte (if (s.value? "IFS").isSome then 0 else Byte.space) false]
  else
    match s.value? "IFS" with
    | none => [.byte Byte.space quoted]
    | some [] => []
    | some (b :: _) => [.byte b quoted]

/-- The value of a parameter; none if it is not set. -/
def value? (s : State) (name : Text) (quoted splits : Bool) : Option (List Cell) :=
  let number (n : Nat) : Option (List Cell) := some (cellsOf quoted (Text.ofNat n))
  match name with
  | [36] => number s.pid
  | [63] => number s.status
  | [35] => number s.parameters.length
  | [33] => if s.backgroundPid = 0 then none else number s.backgroundPid
  | [45] =>
    some (cellsOf quoted (Setting.all.reverse.filterMap fun e =>
      if s.has e.1 then e.2.1 else none))
  | [64] =>
    if quoted ∧ splits then some (joined [.byte 0 false] quoted s.parameters)
    else some (joined (separator s quoted splits) quoted s.parameters)
  | [42] => some (joined (separator s quoted splits) quoted s.parameters)
  | name =>
    match Text.toNat? name with
    | some 0 => some (cellsOf quoted s.name)
    | some n => s.parameters[n - 1]?.map (cellsOf quoted)
    | none => (s.value? name).map (cellsOf quoted)

def pieceOf (s : State) (name : Text) (quoted : Bool) (cells : List Cell) : Piece :=
  { splitting :=
      if ¬ quoted then .atSeparators
      else if name = "@" ∧ s.parameters ≠ [] then .atZeros
      else .nowhere
    cells := cells }

def textOf (pieces : List Piece) : Text := Field.text (pieces.flatMap (·.cells))

/-- Complains about a parameter that is not set, by the word that says so if there is one. -/
def complainUnset {α : Type} (name : Text) (message : Option Text) (emptyToo : Bool) : Act α :=
  Act.fail (name ++ ": " ++
    match message with
    | some m => m
    | none =>
      if emptyToo then Text.ofString "parameter not set or null"
      else Text.ofString "parameter not set")

def parameter (e : Engine) (m : Manner) (name : Text) (form : ParameterForm) (emptyToo : Bool)
    (word : Word) : Act (List Piece) := do
  if form = .malformed then Act.fail "Bad substitution"
  let s ← get
  -- Where only its length or its presence matters, the value is not made ready for splitting.
  let splits := m.splits && form != .length && form != .alternative
  let value :=
    match value? s name m.quoted splits with
    | some cells => if emptyToo ∧ cells.isEmpty then none else some cells
    | none => none
  let itself (cells : List Cell) : List Piece := [pieceOf s name m.quoted cells]
  let inner : Manner := { m with tilde := true, inner := true }
  match form, value with
  | .malformed, _ => return []
  | .default, some cells => return itself cells
  | .default, none => e.expand inner word
  | .alternative, some _ => e.expand inner word
  | .alternative, none => return []
  | .assign, some cells => return itself cells
  | .assign, none =>
    Act.assign name (textOf (← e.expand { tilde := true } word))
    match value? (← get) name m.quoted m.splits with
    | some cells => return itself cells
    | none => return []
  | .require, some cells => return itself cells
  | .require, none =>
    let message := textOf (← e.expand { tilde := true } word)
    complainUnset name (if word.isEmpty then none else some message) emptyToo
  | .plain, some cells => return itself cells
  | .length, some cells => return itself (cellsOf m.quoted (Text.ofNat cells.length))
  | .cut atEnd longest, some cells =>
    let pattern := Field.pattern ((← e.expand { tilde := true } word).flatMap (·.cells))
    return itself (Field.cut (Pattern.ofText pattern) atEnd longest cells)
  | .length, none =>
    if s.has .unsetIsError then complainUnset name none false
    return itself (cellsOf m.quoted "0")
  | .plain, none | .cut _ _, none =>
    if s.has .unsetIsError then complainUnset name none false
    return []

/-! ### Commands and arithmetic -/

/-- Reads all that comes through a pipe; it comes in parts, the latest first. -/
def readAll (fd : Nat) : Act (List Text) :=
  Act.iterate (fun (parts : List Text) => do
    match ← Act.call (.read fd 4096) with
    | .ok [] => return .inr parts
    | .ok t => return .inl (t :: parts)
    | .error .interrupted => return .inl parts
    | .error _ => return .inr parts) Act.limit []

def substitution (e : Engine) (c : Command) : Act Text := do
  match c with
  | .nothing => return []
  | c =>
    Act.uninterrupted do
      let (reader, writer) ← Act.makePipe
      let job ← Act.makeJob
      let _ ← Act.forkShell e (some job) .substitution do
        let _ ← Act.call (.close reader)
        if writer ≠ 1 then
          let _ ← Act.call (.duplicateTo writer 1)
          let _ ← Act.call (.close writer)
        let _ ← e.run c { final := true }
      let _ ← Act.call (.close writer)
      let parts ← readAll reader
      let _ ← Act.call (.close reader)
      let status ← Act.waitForJob job
      modify fun s => { s with substituted := status }
      return Text.dropEnd (· == Byte.newline) (parts.reverse.flatten.filter (· != 0))

def arithmetic (e : Engine) (expression : Word) : Act Int := do
  let text := textOf (← e.expand {} expression)
  let (result, assigned) := Evaluate.run (← get).value? text
  for (name, n) in assigned do
    Act.assign name (Text.ofInt n)
  match result with
  | .ok n => return n
  | .error (.malformed reason) =>
    Act.fail ("arithmetic expression: " ++ reason ++ ": \"" ++ text ++ "\"")
  | .error (.notNumber value) => Act.fail ("Illegal number: " ++ value)
  | .error .overflow =>
    let (self, _) ← Act.call .identity
    let _ ← Act.call (.signal self 8)
    Act.stop 136

/-! ### Words -/

/-- The name behind a tilde, and what follows it. A slash ends it, and a colon where one may. -/
def tildeName? (colon : Bool) : Text → Word → Option (Text × Word)
  | name, .byte b :: rest =>
    if b = Byte.slash ∨ (colon ∧ b = Byte.colon) then some (name.reverse, .byte b :: rest)
    else tildeName? colon (b :: name) rest
  | name, [] => some (name.reverse, [])
  | _, _ => none

def homes : List (Text × Text) :=
  [("root", "/root"), ("daemon", "/usr/sbin"), ("bin", "/bin"), ("sys", "/dev"),
    ("nobody", "/nonexistent")].map fun (e : String × String) =>
      (Text.ofString e.1, Text.ofString e.2)

def home? (s : State) (name : Text) : Option Text :=
  if name = [] then s.value? "HOME" else (homes.find? fun e => e.1 = name).map (·.2)

/-- Bytes up to the next part that is none, and the rest; a tilde that may stand for a directory
ends them too. -/
def literals (m : Manner) (inQuotes : Bool) : List Cell → Bool → Word → List Cell × Bool × Word
  | out, equals, .byte b :: rest =>
    let cell : Cell := .byte b (m.quoted || inQuotes)
    let breaks := m.assigns && ! inQuotes &&
      (b == Byte.colon || (b == Byte.equals && ! equals))
    let equals := equals || b == Byte.equals
    let tilde :=
      match rest with
      | .byte 126 :: _ => true
      | _ => false
    if breaks && tilde then (cell :: out, equals, rest)
    else literals m inQuotes (cell :: out) equals rest
  | out, equals, rest => (out, equals, rest)

/-- Expands parts in order. `start` says that a tilde here stands for a directory, `inQuotes` that
a quotation has started, `equals` that an equals sign has been met. -/
def partsFrom (e : Engine) (m : Manner) : Nat → Bool → Bool → Bool → List Piece → Word →
    Act (List Piece)
  | 0, _, _, _, done, _ => return done
  | _, _, _, _, done, [] => return done
  | n + 1, start, inQuotes, equals, done, part :: rest => do
    let manner : Manner := { m with quoted := m.quoted || inQuotes, tilde := false, inner := false }
    match part with
    | .byte b =>
      let home? : Option (Text × Word) ← do
        if start ∧ b = 126 then
          match tildeName? m.assigns [] rest with
          | some (name, rest) => pure ((home? (← get) name).map fun h => (h, rest))
          | none => pure none
        else pure none
      match home? with
      | some (h, rest) =>
        partsFrom e m n false inQuotes equals (⟨.nowhere, cellsOf true h⟩ :: done) rest
      | none =>
        let (cells, equals, rest) := literals m inQuotes [] equals (part :: rest)
        let splitting : Splitting :=
          if m.inner ∧ ¬ m.quoted ∧ ¬ inQuotes then .atSeparators else .nowhere
        let again := m.assigns && (match cells with
          | .byte b _ :: _ => b == Byte.colon || b == Byte.equals
          | _ => false)
        partsFrom e m n again inQuotes equals (⟨splitting, cells.reverse⟩ :: done) rest
    | .escaped b =>
      partsFrom e m n false inQuotes equals (⟨.nowhere, [.byte b true]⟩ :: done) rest
    | .quotation =>
      match inQuotes, rest with
      | false, .parameter [64] .plain false [] :: .quotation :: rest =>
        let pieces ← parameter e { m with quoted := true, tilde := false, inner := false } [64]
          .plain false []
        partsFrom e m n false inQuotes equals (pieces.reverse ++ done) rest
      | _, rest =>
        partsFrom e m n false (! inQuotes) equals (⟨.nowhere, [.mark]⟩ :: done) rest
    | .parameter name .plain true word =>
      let pieces ← parameter e manner name .plain true []
      let rest ← e.expand { m with quoted := m.quoted || inQuotes, tilde := false } word
      return rest.reverse ++ (pieces.reverse ++ done)
    | .parameter name form emptyToo word =>
      let pieces ← parameter e manner name form emptyToo word
      partsFrom e m n false inQuotes equals (pieces.reverse ++ done) rest
    | .command body =>
      let cells := cellsOf manner.quoted (← substitution e body)
      let splitting : Splitting := if manner.quoted then .nowhere else .atSeparators
      partsFrom e m n false inQuotes equals (⟨splitting, cells⟩ :: done) rest
    | .arithmetic expression =>
      let cells := cellsOf manner.quoted (Text.ofInt (← arithmetic e expression))
      let splitting : Splitting := if manner.quoted then .nowhere else .atSeparators
      partsFrom e m n false inQuotes equals (⟨splitting, cells⟩ :: done) rest

def parts (e : Engine) (m : Manner) (w : Word) : Act (List Piece) := do
  return (← partsFrom e m (w.length + 1) m.tilde false false [] w).reverse

/-! ### Paths -/

/-- A pattern of paths, taken apart at its first name that is a pattern: what stands before it,
that name, and what follows the slash behind it if there is one. -/
structure PathPattern where
  before : Text
  name : Text
  after : Option Text

def unescape : Text → Text
  | 92 :: b :: rest => b :: unescape rest
  | b :: rest => b :: unescape rest
  | [] => []

def closesBracket : Text → Bool
  | 92 :: b :: rest => if b = Byte.slash then false else closesFrom rest
  | b :: rest => if b = Byte.slash then false else closesFrom rest
  | [] => false
where
  closesFrom : Text → Bool
    | 93 :: _ => true
    | 92 :: b :: rest => if b = Byte.slash then false else closesFrom rest
    | b :: rest => if b = Byte.slash then false else closesFrom rest
    | [] => false

/-- Looks for the first name that is a pattern; what was passed comes in reverse. -/
def pathPattern? : Nat → Bool → Text → Text → Text → Option PathPattern
  | 0, _, _, _, _ => none
  | _, active, before, name, [] =>
    if active then some ⟨before.reverse, name.reverse, none⟩ else none
  | n + 1, active, before, name, b :: rest =>
    let slash (skipped after : Text) : Option PathPattern :=
      if active then some ⟨before.reverse, name.reverse, some after⟩
      else pathPattern? n false (skipped ++ name ++ before) [] after
    if b = 42 ∨ b = 63 then pathPattern? n true before (b :: name) rest
    else if b = 91 then
      let body := if rest.head? = some 33 then rest.tail else rest
      pathPattern? n (active || closesBracket body) before (b :: name) rest
    else if b = Byte.slash then slash [b] rest
    else if b = 92 then
      match rest with
      | c :: rest =>
        if c = Byte.slash then slash [c, b] rest
        else pathPattern? n active before (c :: b :: name) rest
      | [] => pathPattern? n active before (b :: name) []
    else pathPattern? n active before (b :: name) rest

def pathsFrom : Nat → Text → Text → Act (List Text)
  | 0, _, _ => return []
  | n + 1, directory, pattern => do
    match pathPattern? (pattern.length + 1) false [] [] pattern with
    | none =>
      if directory = [] then return []
      let path := directory ++ unescape pattern
      match ← Act.call (.statLink path) with
      | .ok _ => return [path]
      | .error _ => return []
    | some p =>
      let directory := directory ++ unescape p.before
      let hidden := (unescape p.name).head? = some 46
      match ← Act.call (.list (if directory = [] then "." else directory)) with
      | none => return []
      | some names =>
        let name := Pattern.ofText p.name
        let fitting := names.filter fun t =>
          (t.head? ≠ some 46 || hidden) && Pattern.fits name t
        match p.after with
        | none => return fitting.map (directory ++ ·)
        | some rest =>
          let found ← fitting.mapM fun t => pathsFrom n (directory ++ t ++ "/") rest
          return found.flatten

def paths (f : Field) : Act (List Text) := do
  if (← get).has .noPathnames ∨ ¬ Field.isPattern f then return [Field.text f]
  let pattern := Field.pattern f
  match ← pathsFrom (pattern.length + 1) [] pattern with
  | [] => return [Field.text f]
  | found => return found.mergeSort fun a b => ! textBefore b a

def fields (e : Engine) (w : Word) : Act (List Text) := do
  let pieces ← e.expand { splits := true, tilde := true } w
  let found ← (Field.split (← get).separators none pieces).mapM paths
  return found.flatten

def single (e : Engine) (m : Manner) (w : Word) : Act Text := do
  return textOf (← e.expand m w)

end Expansion

end ProviderHost.Shell
