import ProviderHost.Text

/-!
# Objects in a text

A scanner for the objects of JSON embedded in any text. Inside an open brace a quote starts a
string, in which a backslash takes the next byte with it and braces count for nothing; outside
all braces a quote means nothing. The spans are listed in the order in which they open.
-/

namespace ProviderHost

/-- The offsets of an opening brace and of the brace that closes it. -/
abbrev ObjectSpan := Nat × Nat

inductive ScanMode where
  | plain
  | inString
  | escaped
  deriving DecidableEq, Repr

/-- What the scanner knows after a part of the text. -/
structure Scan where
  mode : ScanMode := .plain
  /-- The offsets of the braces that are open, innermost first. -/
  opened : List Nat := []
  /-- The spans closed so far, in the order in which they closed. -/
  closed : List ObjectSpan := []
  deriving DecidableEq, Repr

namespace Scan

/-- The byte `b` at offset `i` outside strings. -/
def stepPlain (i : Nat) (b : UInt8) (s : Scan) : Scan :=
  if b = Byte.openBrace then { s with opened := i :: s.opened }
  else
    match s.opened with
    | [] => s
    | o :: outer =>
      if b = Byte.quote then { s with mode := .inString }
      else if b = Byte.closeBrace then { s with opened := outer, closed := s.closed ++ [(o, i)] }
      else s

def step (i : Nat) (b : UInt8) (s : Scan) : Scan :=
  match s.mode with
  | .plain => stepPlain i b s
  | .inString =>
    if b = Byte.backslash then { s with mode := .escaped }
    else if b = Byte.quote then { s with mode := .plain }
    else s
  | .escaped => { s with mode := .inString }

/-- The bytes of a text whose first byte is at offset `i`. -/
def run (i : Nat) (s : Scan) : Text → Scan
  | [] => s
  | b :: t => run (i + 1) (s.step i b) t

theorem run_append (i : Nat) (s : Scan) (t u : Text) :
    run i s (t ++ u) = run (i + t.length) (run i s t) u := by
  induction t generalizing i s with
  | nil => simp [run]
  | cons b t ih => simp [run, ih, Nat.add_assoc, Nat.add_comm 1]

end Scan

/-- The objects of a text, outer before inner. A brace that nothing closes yields none. -/
def objectSpans (t : Text) : List ObjectSpan :=
  (Scan.run 0 {} t).closed.mergeSort fun a b => a.1 ≤ b.1

def ObjectSpan.slice (span : ObjectSpan) (t : Text) : Text :=
  (t.drop span.1).take (span.2 + 1 - span.1)

end ProviderHost
