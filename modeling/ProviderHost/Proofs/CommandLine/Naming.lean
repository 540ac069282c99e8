import ProviderHost.Proofs.CommandLine.GlobalFlags
import ProviderHost.Proofs.CommandLine.Installing

/-!
# Naming a provider

The value of a flag is taken as it is, so a provider can be installed under any id. The other
commands take the id as a word, and what is written like a flag is never read as a word. So the ids
that can be installed and the ids that can be named are not the same.
-/

namespace ProviderHost

/-- The line of a command about a provider, and for a call about one of its tools. -/
def Command.line (c : Command) (id tool : Text) : List Text := c.name :: [id, tool].take c.arity

namespace Draft

/-- Whether an argument after the command is read as a word. -/
def IsWord (arg : Text) : Prop := flagLike arg = false ∧ arg ≠ "-h"

instance : DecidablePred IsWord := fun _ => inferInstanceAs (Decidable (_ ∧ _))

variable {d : Draft} {c : Command} {arg : Text}

theorem IsWord.ne_flag (word : IsWord arg) (flag : Text) (like : flagLike flag) : arg ≠ flag := by
  rintro rfl
  exact Bool.false_ne_true (word.1.symm.trans like)

theorem plain_of_isWord (word : IsWord arg) :
    d.plain arg = .word { d with words := d.words ++ [arg] } := by
  rw [plain, word.1]
  rfl

theorem afterCommand_of_isWord (word : IsWord arg) (c : Command) :
    d.afterCommand c arg = .word { d with words := d.words ++ [arg] } := by
  cases c with
  | install =>
    simp only [afterCommand, word.1, Bool.false_eq_true, if_false]
    exact plain_of_isWord word
  | call =>
    simp only [afterCommand, if_neg (word.ne_flag "--args" rfl)]
    exact plain_of_isWord word
  | _ => exact plain_of_isWord word

theorem read_of_isWord (word : IsWord arg) (begun : d.command = some c) :
    d.read arg = .word { d with words := d.words ++ [arg] } := by
  have noHelp : ¬(arg = "--help" ∨ arg = "-h") := fun asked =>
    asked.elim (word.ne_flag _ rfl) word.2
  unfold read
  rw [if_neg (word.ne_flag _ rfl), if_neg (word.ne_flag _ rfl), if_neg noHelp]
  split
  · rename_i nothing
    cases begun.symm.trans nothing
  · exact afterCommand_of_isWord word _

def AddsNoWord (d : Draft) : Argument → Prop
  | .fault _ => True
  | .word _ => False
  | .flag keep => ∀ v, (keep v).command = d.command ∧ (keep v).words = d.words

theorem plain_of_flagLike (like : flagLike arg = true) :
    d.plain arg = .fault (.unknownArgument arg) := by
  rw [plain, like]
  rfl

theorem afterCommand_of_flagLike (like : flagLike arg = true) (c : Command) :
    AddsNoWord d (d.afterCommand c arg) := by
  have refused : AddsNoWord d (d.plain arg) := by
    rw [plain_of_flagLike like]
    trivial
  unfold afterCommand
  split
  · rw [if_pos like]
    split
    · exact fun _ => ⟨rfl, rfl⟩
    · trivial
  · split
    · exact fun _ => ⟨rfl, rfl⟩
    · exact refused
  · exact refused

theorem read_of_not_isWord (noWord : ¬IsWord arg) (begun : d.command = some c) :
    AddsNoWord d (d.read arg) := by
  unfold read
  split
  · exact fun _ => ⟨rfl, rfl⟩
  split
  · exact fun _ => ⟨rfl, rfl⟩
  split
  · trivial
  · rename_i noHelp
    have like : flagLike arg = true :=
      eq_true_of_ne_false fun plain => noWord ⟨plain, fun asked => noHelp (.inr asked)⟩
    rw [begun]
    exact afterCommand_of_flagLike like c

theorem read_name (c : Command) : ({} : Draft).read c.name = .word { command := some c } := by
  cases c <;> rfl

end Draft

namespace Request

open Draft

variable (isObject : Text → Bool) {c : Command} {id tool : Text}

theorem parse_name (c : Command) (rest : List Text) :
    parse isObject (c.name :: rest) =
      ({ command := some c } : Draft).scan rest >>= ofDraft isObject := by
  rw [parse, scan_word (read_name c)]

theorem ofDraft_of_few {d : Draft} (begun : d.command = some c) (few : d.words.length < c.arity)
    (r : Request) : ofDraft isObject d ≠ .ok r := by
  have missing : checkWords c d.words = .error .missingArgument := if_pos few
  unfold ofDraft
  rw [begun]
  dsimp only
  rw [missing]
  cases levelOf d.logLevel <;> exact nofun

theorem parse_line_of_isWord (named : IsWord id) (called : IsWord tool) (about : c.arity ≠ 0) :
    parse isObject (c.line id tool) =
      .ok { command := c, providerId := id, toolName := if c = .call then tool else [] } := by
  let begun : Draft := { command := some c }
  have first : begun.read id = .word { begun with words := [id] } := read_of_isWord named rfl
  have second : ({ begun with words := [id] } : Draft).read tool =
      .word { begun with words := [id, tool] } := read_of_isWord called rfl
  rw [Command.line, parse_name]
  cases c with
  | list | templates | install | extract => exact absurd rfl about
  | uninstall | tools | serve =>
    change begun.scan [id] >>= _ = _
    rw [scan_word first]
    rfl
  | call =>
    change begun.scan [id, tool] >>= _ = _
    rw [scan_word first, scan_word second]
    rfl

theorem parse_line_of_not_isWord (noWord : ¬IsWord id) (about : c.arity ≠ 0) (r : Request) :
    parse isObject (c.line id tool) ≠ .ok r := by
  let begun : Draft := { command := some c }
  have read := read_of_not_isWord (d := begun) noWord rfl
  have few : ([] : List Text).length < c.arity := Nat.pos_of_ne_zero about
  rw [Command.line, parse_name]
  change begun.scan ([id, tool].take c.arity) >>= _ ≠ _
  cases what : begun.read id with
  | fault cause =>
    obtain ⟨further, arity⟩ := Nat.exists_eq_succ_of_ne_zero about
    rw [arity, List.take_succ_cons, scan_fault what]
    exact nofun
  | word next =>
    rw [what] at read
    exact read.elim
  | flag keep =>
    rw [what] at read
    cases c with
    | list | templates | install | extract => exact absurd rfl about
    | uninstall | tools | serve =>
      change begun.scan [id] >>= _ ≠ _
      rw [scan_pending what]
      exact nofun
    | call =>
      -- The tool is taken for the value of the flag, and no word is left.
      change begun.scan [id, tool] >>= _ ≠ _
      rw [scan_flag what]
      obtain ⟨command, words⟩ := read tool
      exact ofDraft_of_few isObject command (words ▸ few) r

/-- An installation by flags of its own is accepted under every id, if it has a command. -/
theorem parse_install (name command : Text) :
    parse isObject ["install", "--name", name, "--command", command, "--id", id] =
      if command = [] then .error .noProcessCommand
      else .ok
        { command := .install
          definition := { id := id, name := name, command := command } } := by
  have read := InstallGroups.parse_arguments isObject
    [(.name, name), (.command, command), (.id, id)]
  refine read.trans ?_
  change (if command = [] then Except.error CommandLineFault.noProcessCommand else .ok ()) >>= _ = _
  split <;> rfl

/-- An installation takes an id as it is: all that it needs is a command. The other commands take
exactly those ids that are not written like flags, and then they are about the provider of that
id. -/
theorem ids_are_named_unless_like_flags (name command id : Text) (called : IsWord tool) :
    ((∃ r, parse isObject ["install", "--name", name, "--command", command, "--id", id] = .ok r ∧
      r.definition.id = id) ↔ command ≠ []) ∧
    ∀ c ∈ [Command.uninstall, .tools, .serve, .call],
      ((∃ r, parse isObject (c.line id tool) = .ok r) ↔ IsWord id) ∧
      ∀ r, parse isObject (c.line id tool) = .ok r →
        r.command = c ∧ r.providerId = id ∧ (c = .call → r.toolName = tool) := by
  refine ⟨?_, fun c member => ?_⟩
  · rw [parse_install]
    by_cases bare : command = [] <;> simp [bare]
  · have about : c.arity ≠ 0 := by
      revert c
      decide
    by_cases named : IsWord id
    · rw [parse_line_of_isWord isObject named called about]
      refine ⟨⟨fun _ => named, fun _ => ⟨_, rfl⟩⟩, ?_⟩
      rintro _ ⟨⟩
      exact ⟨rfl, rfl, fun call => if_pos call⟩
    · have refused (r : Request) := @parse_line_of_not_isWord isObject c id tool named about r
      exact ⟨⟨fun ⟨r, accepted⟩ => absurd accepted (refused r), fun word => absurd word named⟩,
        fun r accepted => absurd accepted (refused r)⟩

/-- An id that starts with one dash only can be named. -/
theorem id_with_a_dash_is_named :
    let isObject : Text → Bool := fun _ => false
    IsWord "echo" ∧
      (∃ r, parse isObject ["install", "--name", "n", "--command", "c", "--id", "-x"] = .ok r ∧
        r.definition.id = "-x") ∧
      ∃ r, parse isObject ["call", "-x", "echo"] = .ok r ∧ r.providerId = "-x" ∧
        r.toolName = "echo" := by
  intro isObject
  have tool : IsWord "echo" := by decide
  obtain ⟨installed, named⟩ := ids_are_named_unless_like_flags isObject "n" "c" "-x" tool
  obtain ⟨accepted, meant⟩ := named .call (by decide)
  obtain ⟨r, parsed⟩ := accepted.mpr (by decide)
  obtain ⟨-, id, tool'⟩ := meant r parsed
  exact ⟨tool, installed.mpr (by decide), r, parsed, id, tool' rfl⟩

/-- A provider that is installed as `--x` cannot be named in any command. -/
theorem id_like_a_flag_cannot_be_named :
    let isObject : Text → Bool := fun _ => false
    (∃ r, parse isObject ["install", "--name", "n", "--command", "c", "--id", "--x"] = .ok r ∧
      r.definition.id = "--x") ∧
    ∀ c ∈ [Command.uninstall, .tools, .serve, .call],
      parse isObject (c.line "--x" "echo") = .error (.unknownArgument "--x") := by
  refine ⟨⟨_, rfl, rfl⟩, fun c member => ?_⟩
  simp only [List.mem_cons, List.not_mem_nil, or_false] at member
  rcases member with rfl | rfl | rfl | rfl <;> rfl

end Request

end ProviderHost
