import ProviderHost.CommandLine.Request
import ProviderHost.Proofs.Text.Tables

/-!
# Scanning a command line

A command line is read from left to right, and what comes later depends on what came before only
by the draft that it has left (`scan_append`). `Draft.flags` lists the flags of a line with their
values, as they are read.
-/

namespace ProviderHost

/-- What an argument is when the drafts that it leads to are changed. -/
def Argument.map (f : Draft → Draft) : Argument → Argument
  | flag keep => flag fun v => f (keep v)
  | word d => word (f d)
  | fault cause => fault cause

namespace Draft

/-- The flags of some arguments with their values, in the order in which they are read, up to the
first fault. -/
def flags : Draft → List Text → List (Text × Text)
  | _, [] => []
  | d, arg :: rest =>
    match d.read arg with
    | .fault _ => []
    | .word d' => flags d' rest
    | .flag keep =>
      match rest with
      | [] => []
      | v :: rest => (arg, v) :: flags (keep v) rest

variable {d d' : Draft} {arg v : Text} {rest : List Text} {keep : Text → Draft}

theorem scan_fault {cause : CommandLineFault} (h : d.read arg = .fault cause) :
    d.scan (arg :: rest) = .error cause := by simp only [scan, h]

theorem scan_word (h : d.read arg = .word d') : d.scan (arg :: rest) = d'.scan rest := by
  simp only [scan, h]

theorem scan_flag (h : d.read arg = .flag keep) :
    d.scan (arg :: v :: rest) = (keep v).scan rest := by simp only [scan, h]

theorem scan_pending (h : d.read arg = .flag keep) :
    d.scan [arg] = .error (.missingValue arg) := by simp only [scan, h]

theorem flags_word (h : d.read arg = .word d') : d.flags (arg :: rest) = d'.flags rest := by
  simp only [flags, h]

theorem flags_flag (h : d.read arg = .flag keep) :
    d.flags (arg :: v :: rest) = (arg, v) :: (keep v).flags rest := by simp only [flags, h]

/-! ### Parts of a line -/

theorem scan_append {d : Draft} {xs : List Text}
    (complete : ∀ flag, d.scan xs ≠ .error (.missingValue flag)) (ys : List Text) :
    d.scan (xs ++ ys) = d.scan xs >>= fun e => e.scan ys := by
  fun_induction scan d xs with
  | case1 d => rfl
  | case2 d arg rest cause h => exact scan_fault h
  | case3 d arg rest d' h ih =>
    rw [List.cons_append, scan_word h]
    exact ih complete
  | case4 d arg keep h => exact absurd rfl (complete arg)
  | case5 d arg keep h v rest ih =>
    rw [List.cons_append, List.cons_append, scan_flag h]
    exact ih complete

theorem flags_append {d e : Draft} {xs : List Text} (scanned : d.scan xs = .ok e)
    (ys : List Text) : d.flags (xs ++ ys) = d.flags xs ++ e.flags ys := by
  fun_induction scan d xs with
  | case1 d =>
    cases scanned
    rfl
  | case2 d arg rest cause h => cases scanned
  | case3 d arg rest d' h ih =>
    rw [List.cons_append, flags_word h, flags_word h]
    exact ih scanned
  | case4 d arg keep h => cases scanned
  | case5 d arg keep h v rest ih =>
    rw [List.cons_append, List.cons_append, flags_flag h, flags_flag h, List.cons_append]
    exact congrArg _ (ih scanned)

end Draft

end ProviderHost
