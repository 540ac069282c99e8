import ProviderHost.Shell.Reader

/-!
# Words

How the bytes of a script are put together to words, under four ways of quoting that may be
nested through the words of parameters and through arithmetic. A here-document is read as one
word, to the line that holds its mark.
-/

namespace ProviderHost.Shell

inductive Quoting where
  | bare
  | double
  | single
  | arithmetic
  deriving DecidableEq, Repr

structure Layer where
  quoting : Quoting
  braces : Nat := 0
  quotedBraces : Nat := 0
  parentheses : Nat := 0
  /-- Whether a parameter's word is in double quotes of its own. -/
  innerQuotes : Bool := false
  double : Bool := false
  braced : Bool := false

/-- An expansion that is yet to be closed, with what stands before it, in reverse. -/
inductive OpenPart where
  | parameter (name : Text) (form : ParameterForm) (emptyToo : Bool) (before : List Part)
  | arithmetic (before : List Part)

/-- A word that is being read. -/
structure Scan where
  /-- What has been read, in reverse. -/
  parts : List Part := []
  layer : Layer
  outer : List Layer := []
  groups : List OpenPart := []
  quoted : Bool := false
  lineStart : Bool := true

structure Mark where
  text : Text
  stripped : Bool

namespace Scan

def put (s : Scan) (p : Part) : Scan := { s with parts := p :: s.parts }

def setLayer (s : Scan) (l : Layer) : Scan := { s with layer := l }

def enter (s : Scan) (l : Layer) : Scan := { s with layer := l, outer := s.layer :: s.outer }

def leave (s : Scan) : Scan :=
  match s.outer with
  | l :: outer => { s with layer := l, outer := outer }
  | [] => s

def close (s : Scan) : Scan :=
  match s.groups with
  | .parameter name form emptyToo before :: groups =>
    { s with parts := .parameter name form emptyToo s.parts.reverse :: before, groups := groups }
  | .arithmetic before :: groups =>
    { s with parts := .arithmetic s.parts.reverse :: before, groups := groups }
  | [] => s

/-- A quotation starts or ends; in a here-document quotation marks are not kept. -/
def mark (s : Scan) (document : Bool) : Scan := if document then s else s.put .quotation

def doubleQuote (s : Scan) (document : Bool) : Scan :=
  let l := s.layer
  (s.setLayer (if 0 < l.braces then { l with innerQuotes := ! l.innerQuotes } else l)).mark document

end Scan

def isSpecialParameter (b : UInt8) : Bool :=
  Byte.isDigit b || (Text.ofString "#?$!-*@").contains b

/-- Takes bytes while they satisfy `p`, joints of lines left out; they come in reverse. -/
def takeJoined (p : UInt8 → Bool) (taken : Text) : Read Text :=
  Read.iterate (fun taken => do
    match ← Read.peekJoined with
    | some b =>
      if p b then
        let _ ← Read.next
        return .inl (b :: taken)
      else return .inr taken
    | none => return .inr taken) Read.limit taken

/-- The name of a parameter in braces, with whether its length is meant; none if there is no
name. -/
def readBracedName : Read (Option (Text × Bool)) := do
  let nameFrom (b : UInt8) (length : Bool) : Read (Option (Text × Bool)) := do
    let p := if Word.isNameStart b then Word.isNameByte else Byte.isDigit
    return some ((← takeJoined p []).reverse, length)
  match ← Read.peekJoined with
  | none =>
    return none
  | some b =>
    if Word.isNameStart b || Byte.isDigit b then nameFrom b false
    else if b = Byte.closeBrace then return none
    else
      let _ ← Read.next
      if b ≠ 35 then
        return if isSpecialParameter b then some ([b], false) else none
      else
        match ← Read.peekJoined with
        | none => return some ([b], false)
        | some c =>
          if Word.isNameByte c then nameFrom c true
          else if c = Byte.closeBrace then return some ([b], false)
          else
            let r ← get
            let _ ← Read.next
            if (← Read.peekJoined) = some Byte.closeBrace then
              return if isSpecialParameter c then some ([c], true) else none
            else
              set r
              return some ([b], false)

/-- What is made of a parameter in braces, by what stands behind its name. -/
def readForm : Read (ParameterForm × Bool) := do
  let simple (b : Option UInt8) : Option ParameterForm :=
    match b with
    | some 125 => some .plain
    | some 45 => some .default
    | some 43 => some .alternative
    | some 63 => some .require
    | some 61 => some .assign
    | _ => none
  match ← Read.peekJoined with
  | some 58 =>
    let _ ← Read.next
    let b ← Read.peekJoined
    if b.isSome then let _ ← Read.next
    return ((simple b).getD .malformed, true)
  | some 37 =>
    let _ ← Read.next
    return (.cut true (← Read.accept 37), false)
  | some 35 =>
    let _ ← Read.next
    return (.cut false (← Read.accept 35), false)
  | b =>
    if b.isSome then let _ ← Read.next
    return ((simple b).getD .malformed, false)

def readBraced (s : Scan) : Read Scan := do
  let (name, form, emptyToo) ← do
    match ← readBracedName with
    | none => pure ([], .malformed, false)
    | some (name, true) =>
      if ← Read.accept Byte.closeBrace then pure (name, .length, false)
      else pure (name, .malformed, false)
    | some (name, false) =>
      let (form, emptyToo) ← readForm
      pure (name, form, emptyToo)
  if form = .plain ∧ ¬ emptyToo then return s.put (.parameter name .plain false [])
  else if form = .length then return s.put (.parameter name .length false [])
  else
    let l := s.layer
    let inner : Quoting :=
      match form with
      | .cut _ _ => .bare
      | _ => if l.quoting = .arithmetic then .double else l.quoting
    let s :=
      if inner ≠ l.quoting ∨ l.innerQuotes then
        s.enter { quoting := inner, double := inner ≠ .bare, braced := true }
      else s
    let l := s.layer
    let l :=
      { l with
        braces := l.braces + 1
        quotedBraces := if l.double then l.quotedBraces + 1 else l.quotedBraces }
    return { s.setLayer l with
      parts := [], groups := .parameter name form emptyToo s.parts :: s.groups }

def readBackquoted (double : Bool) : Read Text := do
  let text ← Read.iterate (fun (taken : Text) => do
    match ← Read.nextJoined with
    | none => Read.fault "EOF in backquote substitution"
    | some 96 => return .inr taken
    | some 92 =>
      match ← Read.next with
      | none => Read.fault "EOF in backquote substitution"
      | some b =>
        if b = Byte.newline then Read.countLine
        if b = 92 ∨ b = 96 ∨ b = 36 ∨ (double ∧ b = Byte.quote) then return .inl (b :: taken)
        else return .inl (b :: 92 :: taken)
    | some b =>
      if b = Byte.newline then Read.countLine
      return .inl (b :: taken)) Read.limit []
  return text.reverse

def readDollar (substitution : Read Command) (plain : Bool) (s : Scan) : Read Scan := do
  match ← Read.peekJoined with
  | some 40 =>
    if plain then return s.put (.byte 36)
    let _ ← Read.next
    if ← Read.accept 40 then
      return { s.enter { quoting := .arithmetic, double := true } with
        parts := [], groups := .arithmetic s.parts :: s.groups }
    else
      return s.put (.command (← substitution))
  | some 123 =>
    if plain then return s.put (.byte 36)
    let _ ← Read.next
    readBraced s
  | some b =>
    if plain then return s.put (.byte 36)
    if Word.isNameStart b then
      return s.put (.parameter (← takeJoined Word.isNameByte []).reverse .plain false [])
    else if isSpecialParameter b then
      let _ ← Read.next
      return s.put (.parameter [b] .plain false [])
    else return s.put (.byte 36)
  | none => return s.put (.byte 36)

def readEscape (document : Bool) (s : Scan) : Read Scan := do
  match ← Read.next with
  | none => return s.put (.escaped 92)
  | some b =>
    if b = Byte.newline then Read.countLine
    let l := s.layer
    let kept :=
      l.double ∧ b ≠ 92 ∧ b ≠ 96 ∧ b ≠ 36 ∧
        (b ≠ Byte.quote ∨ (document ∧ l.braces = 0)) ∧ (b ≠ Byte.closeBrace ∨ l.braces = 0)
    let s := if kept then s.put (.escaped 92) else s
    return { s.put (.escaped b) with quoted := true }

def closeBrace (s : Scan) : Scan :=
  let l := s.layer
  if ¬ l.innerQuotes ∧ 0 < l.braces then
    let braces := l.braces - 1
    let s := s.setLayer { l with braces := braces }
    let s :=
      if braces = 0 ∧ l.braced then s.leave
      else s.setLayer { l with braces := braces, quotedBraces := l.quotedBraces - 1 }
    s.close
  else s.put (.byte Byte.closeBrace)

/-- Whether the mark of a here-document stands here in a line of its own; it is taken if so. -/
def takeMark (m : Mark) : Read Bool := do
  if m.stripped then
    Read.iterate (σ := Unit) (fun _ => do
      if (← Read.peek) = some Byte.tab then
        let _ ← Read.next
        return .inl ()
      else return .inr ()) Read.limit ()
  let r ← get
  let rec go : Text → Read Bool
    | [] => return true
    | b :: rest => do
      if (← Read.next) = some b then go rest else return false
  if ← go m.text then
    match ← Read.peek with
    | none =>
      Read.countLine
      return true
    | some 10 =>
      let _ ← Read.next
      Read.countLine
      return true
    | some _ => pure ()
  set r
  return false

def endsWord (b : UInt8) : Bool := (Text.ofString "<>();&| \t").contains b

/-- The bytes that have a meaning in patterns and paths, which quotation marks take away. -/
def isActive (b : UInt8) : Bool := (Text.ofString "!*?[=~:/-]").contains b

def quotedByte (b : UInt8) : Part := if isActive b then .escaped b else .byte b

/-- Reads on by a byte or an expansion. The word is over when the result is on the right. -/
def scanStep (substitution : Read Command) (backquoted : Text → Read Command) (end_ : Option Mark)
    (s : Scan) : Read (Scan ⊕ Scan) := do
  let document := end_.isSome
  if s.lineStart then
    match end_ with
    | some m =>
      if s.layer.quoting ≠ .single then let _ ← Read.peekJoined
      if ← takeMark m then return .inr s
    | none => pure ()
  let s := { s with lineStart := false }
  let l := s.layer
  let plain := (← get).lookout.mark
  let some b ← if l.quoting = .single then Read.peek else Read.peekJoined
    | return .inr s
  let take : Read Unit := do
    let _ ← Read.next
  if b = Byte.newline then
    if l.quoting = .bare ∧ l.braces = 0 then return .inr s
    take
    Read.countLine
    return .inl { s.put (.byte b) with lineStart := true }
  match l.quoting with
  | .single =>
    take
    if b = 39 then
      if document ∧ l.braces = 0 then return .inl (s.put (.byte b))
      let l := if l.quotedBraces = 0 then { l with quoting := .bare, double := false } else l
      return .inl { (s.setLayer l).mark document with quoted := true }
    else if document then return .inl (s.put (.byte b))
    else return .inl (s.put (if b = Byte.backslash then .escaped b else quotedByte b))
  | quoting =>
    if b = Byte.backslash then
      take
      return .inl (← readEscape document s)
    if b = 36 then
      take
      return .inl (← readDollar substitution plain s)
    if b = 96 then
      take
      if plain then return .inl (s.put (.byte b))
      return .inl (s.put (.command (← backquoted (← readBackquoted l.double))))
    if b = Byte.closeBrace then
      take
      return .inl (closeBrace s)
    if b = Byte.quote then
      if quoting = .bare then
        take
        return .inl ((s.setLayer { l with quoting := .double, double := true }).doubleQuote document)
      if quoting = .double then
        take
        if document ∧ l.braces = 0 then return .inl (s.put (.byte b))
        let l := if l.quotedBraces = 0 then { l with quoting := .bare, double := false } else l
        return .inl ({ s.setLayer l with quoted := true }.doubleQuote document)
    if quoting = .bare then
      if b = 39 then
        take
        return .inl ((s.setLayer { l with quoting := .single }).mark document)
      if endsWord b ∧ l.braces = 0 then return .inr s
    if quoting = .arithmetic then
      if b = 40 then
        take
        return .inl ((s.setLayer { l with parentheses := l.parentheses + 1 }).put (.byte b))
      if b = 41 then
        take
        if 0 < l.parentheses then
          return .inl ((s.setLayer { l with parentheses := l.parentheses - 1 }).put (.byte b))
        if ← Read.accept 41 then return .inl s.leave.close
        return .inl (s.put (.byte b))
    take
    return .inl (s.put (if quoting = .double then quotedByte b else .byte b))

def scanWord (substitution : Read Command) (backquoted : Text → Read Command) (end_ : Option Mark)
    (quoting : Quoting) : Read Scan := do
  let s ← Read.iterate (scanStep substitution backquoted end_) Read.limit
    { layer := { quoting := quoting, double := quoting = .double } }
  if s.layer.quoting = .arithmetic then Read.fault "Missing '))'"
  if s.layer.quoting ≠ .bare ∧ end_.isNone then Read.fault "Unterminated quoted string"
  if s.layer.braces ≠ 0 then Read.fault "Missing '\x7d'"
  return { s with parts := s.parts.reverse }

end ProviderHost.Shell
