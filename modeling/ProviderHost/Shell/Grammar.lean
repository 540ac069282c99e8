import ProviderHost.Shell.Lexer

/-!
# Commands

How tokens are put together to commands. Reserved words and aliases are looked for only where a
command may start; a fault names the token that does not fit and, where only one does, that one.
-/

namespace ProviderHost.Shell

def specialCommands : List Text :=
  [":", ".", "break", "continue", "eval", "exec", "exit", "export", "local", "readonly",
    "return", "set", "shift", "times", "trap", "unset"].map Text.ofString

inductive ListPlace where
  | line
  | needed
  | optional
  deriving DecidableEq, Repr

namespace Read

def pushBack : Read Unit := modify fun r => { r with pushed := true }

def lookFor (l : Lookout) : Read Unit := modify fun r => { r with lookout := l }

def unexpected {α : Type} (expected : Option Token) : Read α := do
  let r ← get
  match expected with
  | none => fault (r.last.name ++ " unexpected")
  | some t => fault (r.last.name ++ " unexpected (expecting " ++ t.name ++ ")")

end Read

def readRedirection (digit : Option UInt8) : Read Unit := do
  let fd (standard : Nat) : Nat := (digit.map Text.digitValue).getD standard
  let r : Redirection × Bool ← do
    if ← Read.accept 62 then
      if ← Read.accept 62 then pure (.file (fd 1) .append [], false)
      else if ← Read.accept 124 then pure (.file (fd 1) .clobber [], false)
      else if ← Read.accept 38 then pure (.duplicateWord (fd 1) [], false)
      else pure (.file (fd 1) .output [], false)
    else
      let _ ← Read.accept 60
      if ← Read.accept 60 then pure (.document (fd 0) 0, ← Read.accept 45)
      else if ← Read.accept 38 then pure (.duplicateWord (fd 0) [], false)
      else if ← Read.accept 62 then pure (.file (fd 0) .inputOutput [], false)
      else pure (.file (fd 0) .input [], false)
  modify fun s => { s with redirection := some r.1, strips := r.2 }

/-- The operators that consist of a byte or of the same byte twice. -/
def operator? (b : UInt8) : Option (Token × Option Token) :=
  if b = 38 then some (.ampersand, some .andAnd)
  else if b = 124 then some (.bar, some .orOr)
  else if b = 59 then some (.semicolon, some .endOfCase)
  else if b = 40 then some (.openParenthesis, none)
  else if b = 41 then some (.closeParenthesis, none)
  else none

def readPlain (substitution : Read Command) (backquoted : Text → Read Command) : Read Token := do
  let r ← get
  if r.pushed then
    set { r with pushed := false }
    return r.last
  let skipComment : Read Unit := Read.iterate (σ := Unit) (fun _ => do
    match ← Read.peek with
    | none | some 10 => return .inr ()
    | some _ =>
      let _ ← Read.next
      return .inl ()) Read.limit ()
  let t ← Read.iterate (σ := Unit) (fun _ => do
    match ← Read.peekJoined with
    | none => return .inr .endOfFile
    | some b =>
      if b = Byte.space ∨ b = Byte.tab then
        let _ ← Read.next
        return .inl ()
      else if b = 35 then
        skipComment
        return .inl ()
      else if b = Byte.newline then
        let _ ← Read.next
        Read.countLine
        return .inr .newline
      else
        match operator? b with
        | some (single, double) =>
          let _ ← Read.next
          match double with
          | some double => return .inr (if ← Read.accept b then double else single)
          | none => return .inr single
        | none =>
          let s ← scanWord substitution backquoted none .bare
          let b ← Read.peek
          let digit : Option (Option UInt8) :=
            match s.parts with
            | [] => some none
            | [.byte d] => if Byte.isDigit d then some (some d) else none
            | _ => none
          match digit with
          | some digit =>
            if (b = some 62 ∨ b = some 60) ∧ ¬ s.quoted then
              readRedirection digit
              return .inr .redirection
          | none => pure ()
          modify fun r => { r with word := s.parts, quoted := s.quoted }
          return .inr .word) Read.limit ()
  modify fun r => { r with last := t }
  return t

def readDocuments (substitution : Read Command) (backquoted : Text → Read Command) :
    Read Unit := do
  let awaited := (← get).awaited
  modify fun r => { r with awaited := [], lookout := {} }
  for a in awaited do
    let mark : Mark := ⟨a.mark, a.stripped⟩
    let s ← scanWord substitution backquoted (some mark)
      (if a.expands then .double else .single)
    modify fun r =>
      { r with documents := (a.number, (⟨a.expands, s.parts⟩ : Document)) :: r.documents }

def readToken (substitution : Read Command) (backquoted : Text → Read Command) : Read Token := do
  let wanted := (← get).lookout
  Read.iterate (fun (wanted : Lookout) => do
    let t ← Read.iterate (fun (t : Token) => do
      if wanted.newlines ∧ t = .newline then
        readDocuments substitution backquoted
        return .inl (← readPlain substitution backquoted)
      else return .inr t) Read.limit (← readPlain substitution backquoted)
    let r ← get
    let wanted := { wanted with aliases := wanted.aliases || r.lookout.aliases }
    set { r with lookout := {} }
    if t ≠ .word ∨ r.quoted then return .inr t
    let text := (Word.literal? r.word).getD []
    if wanted.reserved then
      match Token.ofReserved? text with
      | some t =>
        modify fun r => { r with last := t }
        return .inr t
      | none => pure ()
    if wanted.aliases then
      match r.aliases.find? fun a => a.1 = text with
      | some (name, value) =>
        if ¬ r.active.contains name then
          let blank := value.getLast?.any fun b => b == Byte.space || b == Byte.tab
          if value ≠ [] then
            modify fun r =>
              { r with
                inserts := ⟨value, name, blank⟩ :: r.inserts
                active := name :: r.active }
          return .inl wanted
      | none => pure ()
    return .inr t) Read.limit wanted

def readTarget (token : Read Token) : Read Redirection := do
  let some redirection := (← get).redirection
    | Read.unexpected none
  let strips := (← get).strips
  match redirection with
  | .document _ _ => Read.lookFor { mark := true }
  | _ => pure ()
  if (← token) ≠ .word then Read.unexpected none
  let r ← get
  match redirection with
  | .document fd _ =>
    let awaited : AwaitedDocument :=
      ⟨r.nextDocument, Word.unquoted r.word, strips, ! r.quoted⟩
    modify fun r =>
      { r with nextDocument := r.nextDocument + 1, awaited := r.awaited ++ [awaited] }
    return .document fd r.nextDocument
  | .duplicateWord fd _ =>
    match Word.literal? r.word with
    | some [b] =>
      if Byte.isDigit b then return .duplicate fd (some (Text.digitValue b))
      else if b = 45 then return .duplicate fd none
      else return .duplicateWord fd r.word
    | _ => return .duplicateWord fd r.word
  | .file fd use _ => return .file fd use r.word
  | r => return r

mutual

def readList (n : Nat) (place : ListPlace) : Read Command := do
  match n with
  | 0 => throw .more
  | n + 1 => readListFrom n place (place = .optional) .nothing true

def readListFrom (n : Nat) (place : ListPlace) (mayEnd : Bool) (before : Command)
    (first : Bool) : Read Command := do
  match n with
  | 0 => throw .more
  | n + 1 =>
    let inner := place ≠ .line
    Read.lookFor { newlines := inner, reserved := true, aliases := true }
    let t ← nextToken n
    if t = .newline ∨ t = .endOfFile then
      readDocuments (readSubstitution n) (readBackquotes n)
      if t = .endOfFile then
        Read.pushBack
        modify fun r => { r with last := .endOfFile }
      return before
    Read.pushBack
    if mayEnd ∧ inner ∧ t.endsList then return before
    let c ← readAndOr n
    let t ← nextToken n
    let c : Command :=
      if t = .ampersand then
        match c with
        | .pipeline _ stages => .pipeline true stages
        | .redirected _ body redirections => .background body redirections
        | c => .background c []
      else c
    let before : Command := if first then c else .sequence before c
    if t = .ampersand ∨ t = .semicolon then readListFrom n place true before false
    else if t = .newline ∨ t = .endOfFile then
      Read.pushBack
      readListFrom n place true before false
    else
      if ¬ inner then Read.unexpected none
      Read.pushBack
      return before

def readAndOr (n : Nat) : Read Command := do
  match n with
  | 0 => throw .more
  | n + 1 => readAndOrFrom n (← readPipeline n)

def readAndOrFrom (n : Nat) (before : Command) : Read Command := do
  match n with
  | 0 => throw .more
  | n + 1 =>
    match ← nextToken n with
    | .andAnd =>
      Read.lookFor { newlines := true, reserved := true, aliases := true }
      readAndOrFrom n (.conjunction before (← readPipeline n))
    | .orOr =>
      Read.lookFor { newlines := true, reserved := true, aliases := true }
      readAndOrFrom n (.disjunction before (← readPipeline n))
    | _ =>
      Read.pushBack
      return before

def readPipeline (n : Nat) : Read Command := do
  match n with
  | 0 => throw .more
  | n + 1 =>
    let negated := (← nextToken n) = .bang
    if negated then Read.lookFor { reserved := true, aliases := true }
    else Read.pushBack
    let first ← readCommand n
    let stages ← readStages n [first]
    let c : Command :=
      match stages with
      | [c] => c
      | stages => .pipeline false stages
    return if negated then .negation c else c

def readStages (n : Nat) (before : List Command) : Read (List Command) := do
  match n with
  | 0 => throw .more
  | n + 1 =>
    if (← nextToken n) = .bar then
      Read.lookFor { newlines := true, reserved := true, aliases := true }
      readStages n ((← readCommand n) :: before)
    else
      Read.pushBack
      return before.reverse

def readCommand (n : Nat) : Read Command := do
  match n with
  | 0 => throw .more
  | n + 1 =>
    let line := (← get).line
    let need (t : Token) : Read Unit := do
      if (← nextToken n) ≠ t then Read.unexpected (some t)
    match ← nextToken n with
    | .if_ =>
      let c ← readChoice n
      need .fi
      withRedirections n line c
    | .while_ =>
      let condition ← readList n .needed
      need .do_
      let body ← readList n .needed
      need .done
      withRedirections n line (.loop true condition body)
    | .until =>
      let condition ← readList n .needed
      need .do_
      let body ← readList n .needed
      need .done
      withRedirections n line (.loop false condition body)
    | .for_ =>
      let t ← nextToken n
      let r ← get
      let name := (Word.literal? r.word).getD []
      if t ≠ .word ∨ r.quoted ∨ ¬ Word.isName name then Read.fault "Bad for loop variable"
      Read.lookFor { newlines := true, reserved := true, aliases := true }
      let words ← do
        if (← nextToken n) = .in_ then
          let words ← readWords n []
          let last := (← get).last
          if last ≠ .newline ∧ last ≠ .semicolon then Read.unexpected none
          pure words
        else
          if (← get).last ≠ .semicolon then Read.pushBack
          pure [[.quotation, .parameter [64] .plain false [], .quotation]]
      Read.lookFor { newlines := true, reserved := true, aliases := true }
      need .do_
      let body ← readList n .needed
      need .done
      withRedirections n line (.each line name words body)
    | .case_ =>
      if (← nextToken n) ≠ .word then Read.unexpected (some .word)
      let subject := (← get).word
      Read.lookFor { newlines := true, reserved := true, aliases := true }
      need .in_
      let clauses ← readClauses n []
      withRedirections n line (.cases line subject clauses)
    | .openParenthesis =>
      let body ← readList n .needed
      need .closeParenthesis
      withRedirections n line (.subshell line body [])
    | .openBrace =>
      let body ← readList n .needed
      need .closeBrace
      withRedirections n line body
    | .word | .redirection =>
      Read.pushBack
      readSimple n
    | _ => Read.unexpected none

def readChoice (n : Nat) : Read Command := do
  match n with
  | 0 => throw .more
  | n + 1 =>
    let condition ← readList n .needed
    if (← nextToken n) ≠ .then_ then Read.unexpected (some .then_)
    let yes ← readList n .needed
    match ← nextToken n with
    | .elif => return .choice condition yes (← readChoice n)
    | .else_ => return .choice condition yes (← readList n .needed)
    | _ =>
      Read.pushBack
      return .choice condition yes .nothing

def readWords (n : Nat) (before : List Word) : Read (List Word) := do
  match n with
  | 0 => throw .more
  | n + 1 =>
    if (← nextToken n) = .word then readWords n ((← get).word :: before)
    else return before.reverse

def readClauses (n : Nat) (before : List (List Word × Command)) :
    Read (List (List Word × Command)) := do
  match n with
  | 0 => throw .more
  | n + 1 =>
    Read.lookFor { newlines := true, reserved := true }
    let t ← nextToken n
    if t = .esac then return before.reverse
    if t = .openParenthesis then let _ ← nextToken n
    let patterns ← readPatterns n []
    if (← get).last ≠ .closeParenthesis then Read.unexpected (some .closeParenthesis)
    let body ← readList n .optional
    Read.lookFor { newlines := true, reserved := true }
    let t ← nextToken n
    let clauses := (patterns, body) :: before
    if t = .esac then return clauses.reverse
    if t ≠ .endOfCase then Read.unexpected (some .endOfCase)
    readClauses n clauses

/-- Reads the patterns of a clause; the first has been read as a token already. -/
def readPatterns (n : Nat) (before : List Word) : Read (List Word) := do
  match n with
  | 0 => throw .more
  | n + 1 =>
    let patterns := (← get).word :: before
    if (← nextToken n) = .bar then
      let _ ← nextToken n
      readPatterns n patterns
    else return patterns.reverse

def withRedirections (n : Nat) (line : Nat) (c : Command) : Read Command := do
  match n with
  | 0 => throw .more
  | n + 1 =>
    Read.lookFor { reserved := true, aliases := true }
    let redirections ← readRedirections n []
    match redirections, c with
    | [], c => return c
    | redirections, .subshell line body _ => return .subshell line body redirections
    | redirections, c => return .redirected line c redirections

def readRedirections (n : Nat) (before : List Redirection) : Read (List Redirection) := do
  match n with
  | 0 => throw .more
  | n + 1 =>
    if (← nextToken n) = .redirection then
      readRedirections n ((← readTarget (nextToken n)) :: before)
    else
      Read.pushBack
      return before.reverse

def readSimple (n : Nat) : Read Command := do
  match n with
  | 0 => throw .more
  | n + 1 => readSimpleFrom n (← get).line true [] [] []

def readSimpleFrom (n line : Nat) (start : Bool) (assignments words : List Word)
    (redirections : List Redirection) : Read Command := do
  match n with
  | 0 => throw .more
  | n + 1 =>
    Read.lookFor { aliases := start }
    match ← nextToken n with
    | .word =>
      let w := (← get).word
      if start ∧ (Word.assigned? w).isSome then
        readSimpleFrom n line start (w :: assignments) words redirections
      else readSimpleFrom n line false assignments (w :: words) redirections
    | .redirection =>
      readSimpleFrom n line start assignments words
        ((← readTarget (nextToken n)) :: redirections)
    | t =>
      match t, assignments, words, redirections with
      | .openParenthesis, [], [w], [] =>
        if (← nextToken n) ≠ .closeParenthesis then Read.unexpected (some .closeParenthesis)
        let name := (Word.literal? w).getD []
        if ¬ Word.isName name ∨ specialCommands.contains name then
          Read.fault "Bad function name"
        Read.lookFor { newlines := true, reserved := true, aliases := true }
        return .function name (← readCommand n)
      | _, _, _, _ =>
        Read.pushBack
        return .simple line assignments.reverse words.reverse redirections.reverse

def readSubstitution (n : Nat) : Read Command := do
  match n with
  | 0 => throw .more
  | n + 1 =>
    let awaited := (← get).awaited
    modify fun r => { r with awaited := [] }
    let body ← readList n .optional
    if (← nextToken n) ≠ .closeParenthesis then Read.unexpected (some .closeParenthesis)
    modify fun r =>
      { r with
        documents := r.awaited.map (fun a => (a.number, (⟨a.expands, []⟩ : Document))) ++ r.documents
        awaited := awaited }
    return body

def readBackquotes (n : Nat) (text : Text) : Read Command := do
  match n with
  | 0 => throw .more
  | n + 1 =>
    let outer ← get
    set { outer with
      rest := text, closed := true, inserts := [], line := 1, pushed := false, awaited := [] }
    let body ← readList n .optional
    modify fun r =>
      { outer with
        documents := r.documents, nextDocument := r.nextDocument, pushed := false
        last := r.last, lookout := r.lookout }
    return body

def nextToken (n : Nat) : Read Token := do
  match n with
  | 0 => throw .more
  | n + 1 => readToken (readSubstitution n) (readBackquotes n)

end

/-- Reads the next commands: a line of them, or what belongs together beyond its end; none at
the end of the script. -/
def readCommands : Read (Option Command) := do
  modify fun r => { r with pushed := false, lookout := {}, awaited := [] }
  let c ← readList Read.limit .line
  match c, (← get).last with
  | .nothing, .endOfFile => return none
  | c, _ => return some c

end ProviderHost.Shell
