import ProviderHost.Text.Decimal

/-!
# Shell scripts

What a script is once it has been read: words made of literal bytes, quotation marks and
expansions, redirections, and commands. The text of a here-document comes after the command that
uses it, so a redirection names it by a number.
-/

namespace ProviderHost.Shell

/-- What is made of a parameter. -/
inductive ParameterForm where
  | plain
  | length
  | default
  | assign
  /-- The script fails with the word unless it is set. -/
  | require
  | alternative
  /-- Its value without what the word matches at the end or at the start. -/
  | cut (atEnd longest : Bool)
  | malformed
  deriving DecidableEq, Repr

/-- What a redirection does with a file. -/
inductive FileUse where
  | input
  | output
  /-- Output to a file that may be there already, whatever the options say. -/
  | clobber
  | append
  | inputOutput
  deriving DecidableEq, Repr

mutual

inductive Part where
  | byte (b : UInt8)
  | escaped (b : UInt8)
  | quotation
  /-- With `emptyToo`, a parameter that is empty counts as one that is not set. -/
  | parameter (name : Text) (form : ParameterForm) (emptyToo : Bool) (word : List Part)
  | command (body : Command)
  | arithmetic (expression : List Part)

inductive Redirection where
  | file (fd : Nat) (use : FileUse) (name : List Part)
  /-- Makes a descriptor stand for what another one stands for; or closes it. -/
  | duplicate (fd : Nat) (source : Option Nat)
  | duplicateWord (fd : Nat) (source : List Part)
  | document (fd number : Nat)

inductive Command where
  | nothing
  | simple (line : Nat) (assignments words : List (List Part)) (redirections : List Redirection)
  | pipeline (background : Bool) (stages : List Command)
  | negation (body : Command)
  | conjunction (first second : Command)
  | disjunction (first second : Command)
  | sequence (first second : Command)
  | redirected (line : Nat) (body : Command) (redirections : List Redirection)
  | background (body : Command) (redirections : List Redirection)
  | subshell (line : Nat) (body : Command) (redirections : List Redirection)
  | choice (condition yes no : Command)
  /-- Runs the body while the condition succeeds, or fails if `expected` is false. -/
  | loop (expected : Bool) (condition body : Command)
  | each (line : Nat) (name : Text) (words : List (List Part)) (body : Command)
  | cases (line : Nat) (subject : List Part) (clauses : List (List (List Part) × Command))
  | function (name : Text) (body : Command)

end

instance : Inhabited Command := ⟨.nothing⟩

abbrev Word := List Part

structure Document where
  expands : Bool
  text : Word

namespace Word

def isNameStart (b : UInt8) : Bool :=
  (97 ≤ b && b ≤ 122) || (65 ≤ b && b ≤ 90) || b == 95

def isNameByte (b : UInt8) : Bool := isNameStart b || Byte.isDigit b

def isName (t : Text) : Bool :=
  match t with
  | [] => false
  | b :: rest => isNameStart b && rest.all isNameByte

def literal? (w : Word) : Option Text :=
  w.mapM fun
    | .byte b => some b
    | _ => none

def ofText (t : Text) : Word := t.map .byte

def assigned? (w : Word) : Option Text :=
  go [] w
where
  go (name : Text) : Word → Option Text
    | .byte b :: rest =>
      if b = Byte.equals then
        if isName name.reverse then some name.reverse else none
      else if isNameByte b then go (b :: name) rest
      else none
    | _ => none

def unquoted (w : Word) : Text :=
  w.filterMap fun
    | .byte b | .escaped b => some b
    | _ => none

end Word

end ProviderHost.Shell
