import ProviderHost.Text.Decimal

/-!
# Patterns

Patterns for texts: a question mark stands for one byte, an asterisk for any number of them, and
a bracket for one of a set; a backslash takes away the meaning of what follows it. A bracket that
is not closed stands for itself. Ranges order the bytes as signed numbers.
-/

namespace ProviderHost.Shell

/-- The classes of bytes that have names. -/
inductive ByteClass where
  | alnum | alpha | blank | cntrl | digit | graph | lower | print | punct | space | upper | xdigit
  deriving DecidableEq, Repr

namespace ByteClass

def all : List (Text × ByteClass) :=
  [(":alnum:]", ByteClass.alnum), (":alpha:]", .alpha), (":blank:]", .blank), (":cntrl:]", .cntrl),
    (":digit:]", .digit), (":graph:]", .graph), (":lower:]", .lower), (":print:]", .print),
    (":punct:]", .punct), (":space:]", .space), (":upper:]", .upper),
    (":xdigit:]", .xdigit)].map fun (e : String × ByteClass) => (Text.ofString e.1, e.2)

def isLower (b : UInt8) : Bool := 97 ≤ b && b ≤ 122
def isUpper (b : UInt8) : Bool := 65 ≤ b && b ≤ 90
def isLetter (b : UInt8) : Bool := isLower b || isUpper b
def isGraph (b : UInt8) : Bool := 33 ≤ b && b ≤ 126

def isSpace (b : UInt8) : Bool := b == 32 || (9 ≤ b && b ≤ 13)

def contains (b : UInt8) : ByteClass → Bool
  | .alnum => isLetter b || Byte.isDigit b
  | .alpha => isLetter b
  | .blank => b == 32 || b == 9
  | .cntrl => b < 32 || b == 127
  | .digit => Byte.isDigit b
  | .graph => isGraph b
  | .lower => isLower b
  | .print => b == 32 || isGraph b
  | .punct => isGraph b && ! isLetter b && ! Byte.isDigit b
  | .space => isSpace b
  | .upper => isUpper b
  | .xdigit => Byte.isDigit b || (97 ≤ b && b ≤ 102) || (65 ≤ b && b ≤ 70)

end ByteClass

inductive SetItem where
  | range (first last : UInt8)
  | named (c : ByteClass)
  deriving DecidableEq, Repr

inductive PatternItem where
  | byte (b : UInt8)
  | one
  | many
  | set (inverted : Bool) (items : List SetItem)
  deriving DecidableEq, Repr

abbrev Pattern := List PatternItem

/-- Whether a byte lies between two, as signed numbers. -/
def inRange (first last b : UInt8) : Bool :=
  first.toInt8 ≤ b.toInt8 && b.toInt8 ≤ last.toInt8

def SetItem.contains (b : UInt8) : SetItem → Bool
  | .range first last => inRange first last b
  | .named c => c.contains b

namespace Pattern

def class? (t : Text) : Option (ByteClass × Text) :=
  ByteClass.all.findSome? fun e => (Text.after? e.1 t).map fun rest => (e.2, rest)

/-- The items of a bracket and what follows it; none if it is not closed. A closing bracket at
the very start is an item. -/
def items? : Nat → Text → Option (List SetItem × Text)
  | 0, _ => none
  | _, [] => none
  | n + 1, c :: rest =>
    let next (item : SetItem) (rest : Text) : Option (List SetItem × Text) :=
      match rest with
      | 93 :: rest => some ([item], rest)
      | rest => (items? n rest).map fun (items, rest) => (item :: items, rest)
    let single (c : UInt8) (rest : Text) : Option (List SetItem × Text) :=
      match rest with
      | 45 :: last :: rest =>
        if last = 93 then next (.range c c) (45 :: last :: rest)
        else
          match last, rest with
          | 92, last :: rest => next (.range c last) rest
          | last, rest => next (.range c last) rest
      | rest => next (.range c c) rest
    if c = 91 then
      match class? rest with
      | some (k, rest) => next (.named k) rest
      | none => single c rest
    else if c = 92 then
      match rest with
      | c :: rest => single c rest
      | [] => none
    else single c rest

def parse : Nat → Text → Pattern
  | 0, _ => []
  | _, [] => []
  | n + 1, b :: rest =>
    if b = 63 then .one :: parse n rest
    else if b = 42 then .many :: parse n rest
    else if b = 92 then
      match rest with
      | c :: rest => .byte c :: parse n rest
      | [] => [.byte b]
    else if b = 91 then
      let (inverted, body) :=
        match rest with
        | 33 :: body => (true, body)
        | body => (false, body)
      match items? body.length body with
      | some (items, rest) => .set inverted items :: parse n rest
      | none => .byte b :: parse n rest
    else .byte b :: parse n rest

def ofText (t : Text) : Pattern := parse t.length t

def fits : Pattern → Text → Bool
  | [], t => t.isEmpty
  | .many :: p, t =>
    fits p t ||
      match t with
      | [] => false
      | _ :: t => fits (.many :: p) t
  | .one :: p, _ :: t => fits p t
  | .byte b :: p, c :: t => b == c && fits p t
  | .set inverted items :: p, c :: t => (items.any (·.contains c)) != inverted && fits p t
  | _, [] => false
termination_by p t => (p.length, t.length)

end Pattern

end ProviderHost.Shell
