import ProviderHost.ObjectSpan

/-!
# JSON as it is written

The syntax of JSON with everything that can be seen in a text: the blanks between the tokens, the
escapes in the strings and the digits of the numbers. Two members of an object may have one name.
-/

namespace ProviderHost

/-- The span when `k` bytes are written in front of the text. -/
def ObjectSpan.shift (k : Nat) (x : ObjectSpan) : ObjectSpan := (k + x.1, k + x.2)

def ObjectSpan.behind (front : Text) (spans : List ObjectSpan) : List ObjectSpan :=
  spans.map (·.shift front.length)

namespace JsonText

open ObjectSpan (behind)

/-! ### Tokens -/

inductive Blank where
  | space | tab | newline | carriageReturn
  deriving DecidableEq, Repr

def Blank.byte : Blank → UInt8
  | space => Byte.space
  | tab => Byte.tab
  | newline => Byte.newline
  | carriageReturn => Byte.carriageReturn

abbrev Gap := List Blank

def Gap.text (gap : Gap) : Text := gap.map Blank.byte

structure HexDigit where
  value : Fin 16
  isCapital : Bool := false
  deriving DecidableEq, Repr

def HexDigit.byte (d : HexDigit) : UInt8 :=
  (if d.value.val < 10 then 48 else if d.isCapital then 55 else 87) + UInt8.ofNat d.value

inductive Escape where
  | quote | backslash | slash | backspace | formFeed | newline | carriageReturn | tab
  deriving DecidableEq, Repr

def Escape.letter : Escape → UInt8
  | quote => Byte.quote
  | backslash => Byte.backslash
  | slash => Byte.slash
  | backspace => 98
  | formFeed => 102
  | newline => 110
  | carriageReturn => 114
  | tab => 116

/-- What a string is made of. A character of several bytes is made of several plain ones. -/
inductive Character where
  | plain (b : UInt8) (allowed : 32 ≤ b ∧ b ≠ Byte.quote ∧ b ≠ Byte.backslash := by decide)
  | escape (e : Escape)
  | unicode (a b c d : HexDigit)
  deriving DecidableEq, Repr

def Character.text : Character → Text
  | plain b _ => [b]
  | escape e => [Byte.backslash, e.letter]
  | unicode a b c d => [Byte.backslash, 117, a.byte, b.byte, c.byte, d.byte]

abbrev Quoted := List Character

def Quoted.text (q : Quoted) : Text := Byte.quote :: (q.flatMap Character.text ++ [Byte.quote])

def digit (d : Fin 10) : UInt8 := 48 + UInt8.ofNat d

structure Digits where
  first : Fin 10
  more : List (Fin 10) := []
  deriving DecidableEq, Repr

def Digits.text (d : Digits) : Text := digit d.first :: d.more.map digit

/-- A part of a number in front of the point, which starts with no zero but for zero itself. -/
inductive Whole where
  | zero
  | positive (digits : Digits) (nonzero : digits.first ≠ 0 := by decide)
  deriving DecidableEq, Repr

def Whole.text : Whole → Text
  | zero => "0"
  | positive digits _ => digits.text

inductive Sign where
  | plus | minus
  deriving DecidableEq, Repr

def Sign.text : Option Sign → Text
  | none => []
  | some plus => "+"
  | some minus => "-"

structure Exponent where
  isCapital : Bool := false
  sign : Option Sign := none
  digits : Digits
  deriving DecidableEq, Repr

def Exponent.text : Option Exponent → Text
  | none => []
  | some ⟨isCapital, sign, digits⟩ =>
    (if isCapital then 69 else 101) :: (Sign.text sign ++ digits.text)

def fractionText : Option Digits → Text
  | none => []
  | some digits => "." ++ digits.text

structure Numeral where
  isNegative : Bool := false
  whole : Whole
  fraction : Option Digits := none
  exponent : Option Exponent := none
  deriving DecidableEq, Repr

def Numeral.text (n : Numeral) : Text :=
  Sign.text (if n.isNegative then some .minus else none) ++ n.whole.text ++
    fractionText n.fraction ++ Exponent.text n.exponent

/-! ### Values -/

mutual

inductive Value where
  | null
  | bool (b : Bool)
  | number (n : Numeral)
  | string (q : Quoted)
  | emptyArray (gap : Gap)
  | array (items : Items)
  | object (o : Object)

inductive Item where
  | mk (before : Gap) (value : Value) (after : Gap)

inductive Items where
  | last (item : Item)
  | more (item : Item) (rest : Items)

inductive Object where
  | empty (gap : Gap)
  | members (members : Members)

inductive Members where
  | last (before : Gap) (name : Quoted) (after : Gap) (value : Item)
  | more (before : Gap) (name : Quoted) (after : Gap) (value : Item) (rest : Members)

end

mutual

def Value.text : Value → Text
  | .null => "null"
  | .bool true => "true"
  | .bool false => "false"
  | .number n => n.text
  | .string q => q.text
  | .emptyArray gap => "[" ++ gap.text ++ "]"
  | .array items => "[" ++ items.text ++ "]"
  | .object o => o.text

def Item.text : Item → Text
  | .mk before value after => before.text ++ value.text ++ after.text

def Items.text : Items → Text
  | .last item => item.text
  | .more item rest => item.text ++ "," ++ rest.text

def Object.text : Object → Text
  | .empty gap => Byte.openBrace :: (gap.text ++ [Byte.closeBrace])
  | .members members => Byte.openBrace :: (members.text ++ [Byte.closeBrace])

def Members.text : Members → Text
  | .last before name after value => before.text ++ name.text ++ after.text ++ ":" ++ value.text
  | .more before name after value rest =>
    before.text ++ name.text ++ after.text ++ ":" ++ value.text ++ "," ++ rest.text

end

/-! ### Objects

The objects of a value with all that are in them, each before those in it, and where they are. -/

mutual

def Value.objects : Value → List Object
  | .array items => items.objects
  | .object o => o.objects
  | .null | .bool _ | .number _ | .string _ | .emptyArray _ => []

def Item.objects : Item → List Object
  | .mk _ value _ => value.objects

def Items.objects : Items → List Object
  | .last item => item.objects
  | .more item rest => item.objects ++ rest.objects

def Object.objects : Object → List Object
  | .empty gap => [.empty gap]
  | .members members => .members members :: members.objects

def Members.objects : Members → List Object
  | .last _ _ _ value => value.objects
  | .more _ _ _ value rest => value.objects ++ rest.objects

end

mutual

def Value.spans : Value → List ObjectSpan
  | .array items => behind "[" items.spans
  | .object o => o.spans
  | .null | .bool _ | .number _ | .string _ | .emptyArray _ => []

def Item.spans : Item → List ObjectSpan
  | .mk before value _ => behind before.text value.spans

def Items.spans : Items → List ObjectSpan
  | .last item => item.spans
  | .more item rest => item.spans ++ behind (item.text ++ ",") rest.spans

def Object.spans : Object → List ObjectSpan
  | .empty gap => [(0, gap.text.length + 1)]
  | .members members => (0, members.text.length + 1) :: behind [Byte.openBrace] members.spans

def Members.spans : Members → List ObjectSpan
  | .last before name after value =>
    behind (before.text ++ name.text ++ after.text ++ ":") value.spans
  | .more before name after value rest =>
    behind (before.text ++ name.text ++ after.text ++ ":") value.spans ++
      behind (before.text ++ name.text ++ after.text ++ ":" ++ value.text ++ ",") rest.spans

end

end JsonText

end ProviderHost
