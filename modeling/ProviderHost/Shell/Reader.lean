import ProviderHost.Shell.Syntax

/-!
# Reading a script

The reader goes through the bytes of a script and counts its lines. The value of an alias is read
in place of the word it stands for. A reader whose input may still grow stops when it needs more
of it, and the command is read anew once there is more.
-/

namespace ProviderHost.Shell

inductive Stop where
  /-- The command goes on beyond the input that is there. -/
  | more
  | fault (line : Nat) (message : Text)

inductive Token where
  | endOfFile | newline | semicolon | ampersand | andAnd | orOr | bar | openParenthesis
  | closeParenthesis | endOfCase | redirection | word
  | bang | case_ | do_ | done | elif | else_ | esac | fi | for_ | if_ | in_ | then_ | until
  | while_ | openBrace | closeBrace
  deriving DecidableEq, Repr, Inhabited

namespace Token

def reserved : List (Token × Text) :=
  [(.bang, "!"), (.case_, "case"), (.do_, "do"), (.done, "done"), (.elif, "elif"),
    (.else_, "else"), (.esac, "esac"), (.fi, "fi"), (.for_, "for"), (.if_, "if"), (.in_, "in"),
    (.then_, "then"), (.until, "until"), (.while_, "while"), (.openBrace, "\x7b"),
    (.closeBrace, "\x7d")].map fun (e : Token × String) => (e.1, Text.ofString e.2)

def ofReserved? (t : Text) : Option Token := (reserved.find? fun e => e.2 = t).map (·.1)

def name : Token → Text
  | .endOfFile => "end of file"
  | .newline => "newline"
  | .semicolon => "\";\""
  | .ampersand => "\"&\""
  | .andAnd => "\"&&\""
  | .orOr => "\"||\""
  | .bar => "\"|\""
  | .openParenthesis => "\"(\""
  | .closeParenthesis => "\")\""
  | .endOfCase => "\";;\""
  | .redirection => "redirection"
  | .word => "word"
  | t =>
    match reserved.find? fun e => e.1 = t with
    | some (_, text) => "\"" ++ text ++ "\""
    | none => []

def endsList : Token → Bool
  | .endOfFile | .closeParenthesis | .endOfCase | .do_ | .done | .elif | .else_ | .esac | .fi
  | .then_ | .closeBrace => true
  | _ => false

end Token

/-- A text that is read in place of a word. -/
structure Insert where
  rest : Text
  name : Text
  /-- Whether it ends with a blank, so that the next word may be an alias too. -/
  open_ : Bool

structure AwaitedDocument where
  number : Nat
  mark : Text
  stripped : Bool
  expands : Bool

structure Lookout where
  newlines : Bool := false
  reserved : Bool := false
  aliases : Bool := false
  mark : Bool := false

structure Reader where
  rest : Text
  closed : Bool := true
  inserts : List Insert := []
  line : Nat := 1
  aliases : List (Text × Text) := []
  active : List Text := []
  lookout : Lookout := {}
  /-- The token that was read last, and whether it is to be read again. -/
  last : Token := .newline
  pushed : Bool := false
  word : Word := []
  quoted : Bool := false
  redirection : Option Redirection := none
  /-- The mark of a here-document whose redirection is being read. -/
  strips : Bool := false
  awaited : List AwaitedDocument := []
  documents : List (Nat × Document) := []
  nextDocument : Nat := 0

abbrev Read := EStateM Stop Reader

namespace Read

def fault {α : Type} (message : Text) : Read α := fun r =>
  .error (.fault r.line ("Syntax error: " ++ message)) r

def iterate {σ β : Type} (step : σ → Read (σ ⊕ β)) : Nat → σ → Read β
  | 0, _ => throw .more
  | n + 1, s => fun r =>
    match step s r with
    | .ok (.inl s) r => iterate step n s r
    | .ok (.inr b) r => .ok b r
    | .error e r => .error e r

def limit : Nat := 1000000000000

/-- Leaves the aliases whose values have been read to their ends. -/
def leaveInserts : Nat → Reader → Reader
  | 0, r => r
  | n + 1, r =>
    match r.inserts with
    | ⟨[], name, open_⟩ :: inserts =>
      leaveInserts n
        { r with
          inserts := inserts
          active := r.active.erase name
          lookout := if open_ then { r.lookout with aliases := true } else r.lookout }
    | _ => r

/-- The next byte, which is taken; none at the end of the input. -/
def next : Read (Option UInt8) := fun r =>
  let r := if r.inserts.isEmpty then r else leaveInserts r.inserts.length r
  match r.inserts with
  | ⟨b :: rest, name, open_⟩ :: inserts =>
    .ok (some b) { r with inserts := ⟨rest, name, open_⟩ :: inserts }
  | _ =>
    match r.rest with
    | b :: rest => .ok (some b) { r with rest := rest }
    | [] => if r.closed then .ok none r else .error .more r

def peek : Read (Option UInt8) := fun r =>
  match next r with
  | .ok b _ => .ok b r
  | .error e _ => .error e r

def countLine : Read Unit := modify fun r => { r with line := r.line + 1 }

/-- The next byte with the joints of lines left out; it is taken. -/
def nextJoined : Read (Option UInt8) :=
  iterate (σ := Unit) (fun _ => do
    let b ← next
    if b = some Byte.backslash then
      if (← peek) = some Byte.newline then
        let _ ← next
        countLine
        return .inl ()
      else return .inr b
    else return .inr b) limit ()

/-- The next byte with the joints of lines left out; it is not taken, but the joints are. -/
def peekJoined : Read (Option UInt8) :=
  iterate (σ := Unit) (fun _ => do
    let b ← peek
    if b = some Byte.backslash then
      let r ← get
      let _ ← next
      if (← peek) = some Byte.newline then
        let _ ← next
        countLine
        return .inl ()
      else
        set r
        return .inr b
    else return .inr b) limit ()

/-- Takes a byte if it comes next, joints of lines left out. -/
def accept (b : UInt8) : Read Bool := do
  if (← peekJoined) = some b then
    let _ ← next
    return true
  else return false

end Read

end ProviderHost.Shell
