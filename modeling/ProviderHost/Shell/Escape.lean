import ProviderHost.Shell.Number

/-!
# Escapes in output

A backslash and what follows it stand for a byte: a control character by its letter, or any byte
by its octal digits.
-/

namespace ProviderHost.Shell.Escape

def isOctal (b : UInt8) : Bool := 48 ≤ b && b ≤ 55

/-- The byte that a letter behind a backslash stands for. -/
def letter? (b : UInt8) : Option UInt8 :=
  if b = 92 then some 92
  else if b = 97 then some 7
  else if b = 98 then some 8
  else if b = 101 then some 27
  else if b = 102 then some 12
  else if b = 110 then some 10
  else if b = 114 then some 13
  else if b = 116 then some 9
  else if b = 118 then some 11
  else none

/-- The byte that up to three octal digits denote. -/
def octal (digits : Text) : UInt8 :=
  (digits.foldl (fun (n : Nat) (d : UInt8) => n * 8 + (d.toNat - 48)) 0).toUInt8

/-- What stands behind a backslash: the byte that it stands for, and what follows it. -/
def behind (t : Text) : UInt8 × Text :=
  match t with
  | [] => (92, [])
  | b :: rest =>
    match letter? b with
    | some c => (c, rest)
    | none =>
      let digits := (t.take 3).takeWhile isOctal
      if digits = [] then (92, t) else (octal digits, t.drop digits.length)

/-- The bytes that an argument stands for, in reverse, and whether all output ends with it. The
octal digits of an argument stand behind a zero. -/
def expandFrom : Nat → Text → Text → Text × Bool
  | 0, out, _ => (out, false)
  | _, out, [] => (out, false)
  | n + 1, out, 92 :: rest =>
    match rest with
    | 99 :: _ => (out, true)
    | rest =>
      let rest :=
        match rest with
        | 48 :: d :: more => if isOctal d then d :: more else rest
        | rest => rest
      match behind rest with
      | (b, rest) => expandFrom n (b :: out) rest
  | n + 1, out, b :: rest => expandFrom n (b :: out) rest

/-- The bytes that an argument stands for, and whether all output ends with it. -/
def expand (t : Text) : Text × Bool :=
  if t.contains 92 then
    match expandFrom t.length [] t with
    | (out, ended) => (out.reverse, ended)
  else (t, false)

def echo (args : List Text) : Text :=
  let (newline, args) :=
    match args with
    | first :: rest => if first = "-n" then (false, rest) else (true, args)
    | [] => (true, [])
  go newline args
where
  go (newline : Bool) : List Text → Text
    | [] => if newline then [Byte.newline] else []
    | [a] =>
      match expand a with
      | (out, ended) => if ended ∨ ¬ newline then out else out ++ [Byte.newline]
    | a :: rest =>
      match expand a with
      | (out, true) => out
      | (out, false) => out ++ Byte.space :: go newline rest

end ProviderHost.Shell.Escape
