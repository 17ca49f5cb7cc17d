import SubordinateIds.Proofs.Assignment.Runs
import SubordinateIds.Proofs.Assignment.Starts
import SubordinateIds.Proofs.LoginName

/-
  Arguments — what the tools are told, word by word

  The tools run with the rights of the superuser, and the name that stands in their
  arguments may come from a record of the machine that no one checked when it was looked
  up. So it is checked once more right before each command. `Form` lists the four forms
  that arguments have; the words in them are flags, the range of a block and the name, and
  none of these words can be taken for another one or falls apart into several.

  What is shown of a command is therefore as good as its arguments: cut at the spaces,
  the text gives them back (`Command.exists_render`).
-/

namespace SubordinateIds

namespace Command

theorem join_spaced {args : List String} (filled : args ≠ []) :
    String.join (args.map (" " ++ ·)) = " " ++ " ".intercalate args := by
  induction args with
  | nil => exact absurd rfl filled
  | cons arg args ih =>
    cases args with
    | nil => simp
    | cons next args =>
      rw [List.map_cons, String.join_cons, ih (List.cons_ne_nil _ _),
        String.intercalate_cons_cons, String.append_assoc, String.append_assoc]

/-- Arguments without spaces can be read off the text that shows the command. -/
theorem exists_render {c : Command} (filled : c.args ≠ [])
    (closed : ∀ arg ∈ c.args, ' ' ∉ arg.toList) :
    ∃ rest, c.render = c.program.display ++ " " ++ rest ∧
      rest.toList.splitOn ' ' = c.args.map String.toList := by
  refine ⟨" ".intercalate c.args, ?_, ?_⟩
  · rw [render, join_spaced filled, String.append_assoc]
  · rw [String.toList_intercalate]
    refine List.splitOn_intercalate ' ' ?_ (by simpa using filled)
    intro letters mem
    obtain ⟨arg, given, rfl⟩ := List.mem_map.mp mem
    exact closed arg given

end Command

namespace Assignment

/-- The text is the first and the last of this many ids in a row, with a hyphen between
them. -/
def Spans (text : String) (count : Nat) : Prop :=
  ∃ first last : Nat, text = Nat.repr first ++ "-" ++ Nat.repr last ∧ first ≤ last ∧
    last ≤ 4294967295 ∧ last - first + 1 = count

/-- The programs and the arguments that commands about the user of this name have. -/
inductive Form (tools : Tools) (c : Configuration) (name : String) : Path → List String → Prop where
  | askUsers : Form tools c name tools.queryTool [name]
  | askGroups : Form tools c name tools.queryTool ["-g", name]
  | addUsers {range : String} (spans : Spans range (c.pool .user).count.toNat) :
      Form tools c name tools.accountTool ["--add-subuids", range, name]
  | addGroups {range : String} (spans : Spans range (c.pool .group).count.toNat) :
      Form tools c name tools.accountTool ["--add-subgids", range, name]

theorem spans_render (b : Block) : Spans b.render b.count.toNat := by
  have pos := b.count_pos
  have fits : b.start.toNat + b.count.toNat ≤ 4294967296 := b.fits
  exact ⟨_, _, b.render_eq, by omega, by omega, by omega⟩

theorem Spans.plain {text : String} {count : Nat} (h : Spans text count) {letter : Char}
    (mem : letter ∈ text.toList) : letter.isDigit = true ∨ letter = '-' := by
  obtain ⟨first, last, rfl, -⟩ := h
  simp only [String.toList_append, Nat.toList_repr, List.mem_append] at mem
  have digit {n : Nat} (among : letter ∈ Nat.toDigits 10 n) : letter.isDigit = true :=
    Nat.isDigit_of_mem_toDigits (by decide) (by decide) among
  rcases mem with (low | hyphen) | high
  · exact .inl (digit low)
  · exact .inr (List.mem_singleton.mp hyphen)
  · exact .inl (digit high)

theorem Spans.closed {text : String} {count : Nat} (h : Spans text count) : ' ' ∉ text.toList := by
  intro mem
  exact absurd (h.plain mem) (by decide)

namespace Form

variable {tools : Tools} {c : Configuration} {name : String} {program : Path} {args : List String}

theorem ne_nil (h : Form tools c name program args) : args ≠ [] := by
  cases h <;> exact List.cons_ne_nil _ _

theorem closed (h : Form tools c name program args) (named : ' ' ∉ name.toList) :
    ∀ arg ∈ args, ' ' ∉ arg.toList := by
  cases h with
  | askUsers => simp [named]
  | askGroups => simp [named]
  | addUsers spans => simp [named, spans.closed]
  | addGroups spans => simp [named, spans.closed]

end Form

theorem Task.Owns.form {w : Task} {kind : Kind} {command : Command} (h : w.Owns kind command) :
    Form w.tools w.configuration w.account.name command.program command.args := by
  rcases h.cases with rfl | ⟨block, -, places, rfl⟩
  · cases kind with
    | user => exact .askUsers
    | group => exact .askGroups
  · have spans := spans_render block
    rw [places.count] at spans
    cases kind with
    | user => exact .addUsers spans
    | group => exact .addGroups spans

theorem Task.Owns.stdin {w : Task} {kind : Kind} {command : Command} (h : w.Owns kind command) :
    command.stdin = .null := by
  rcases h.cases with rfl | ⟨block, -, -, rfl⟩
  · rfl
  · rfl

namespace Run

/-- Every command of a run reads nothing, is about the user that was found, has a name in
it that is taken for nothing else, and has one of four forms, which can be read off the text
that shows it. -/
theorem no_injection (r : Run) {command : Command} (mem : command ∈ r.commands) :
    ∃ account c, r.account = .ok account ∧ r.configuration = .ok c ∧
      LoginName.Portable account.name ∧ LoginName.Unmistakable account.name ∧
      command.stdin = .null ∧ Form r.tools c account.name command.program command.args ∧
      ∃ rest, command.render = command.program.display ++ " " ++ rest ∧
        rest.toList.splitOn ' ' = command.args.map String.toList := by
  have silent (none : r.commands = []) : False := by
    rw [none] at mem
    cases mem
  cases r.ends with
  | unresolved fault found none => exact (silent none).elim
  | unloaded account fault found loaded none => exact (silent none).elim
  | outside account c fault found loaded window none => exact (silent none).elim
  | served account c outcomes found loaded window course ended =>
    obtain ⟨answer, answered, rfl⟩ := exists_answer mem
    obtain ⟨kind, -, owns⟩ := course.owns answered
    have portable : LoginName.Portable account.name := LoginName.check_eq_ok_iff.mp owns.checked
    have unmistakable := portable.unmistakable
    have named : ' ' ∉ account.name.toList := by
      intro space
      exact absurd (unmistakable.oneWord ' ' space) (by decide)
    exact ⟨account, c, found, loaded, portable, unmistakable, owns.stdin, owns.form,
      Command.exists_render owns.form.ne_nil (owns.form.closed named)⟩

/-- A user who is meant by a number is called by name. -/
theorem no_injection_office :
    let command : Command := ⟨Tools.standard.accountTool, "usermod",
      ["--add-subgids", "100000-165535", "ann"], [], .null, .inherit, .inherit⟩
    command ∈ (inOffice "1000" [.group] false).commands ∧
      LoginName.Unmistakable "ann" ∧
      ∃ rest, command.render = "/usr/sbin/usermod" ++ " " ++ rest ∧
        rest.toList.splitOn ' ' = command.args.map String.toList := by
  intro command
  have mem : command ∈ (inOffice "1000" [.group] false).commands := by decide +kernel
  obtain ⟨account, c, found, -, -, unmistakable, -, -, shown⟩ := no_injection _ mem
  have same : account = ⟨"ann", 1000⟩ := by
    have ann : (inOffice "1000" [.group] false).account = .ok ⟨"ann", 1000⟩ := by decide +kernel
    rw [found] at ann
    exact Except.ok.inj ann
  have display : command.program.display = "/usr/sbin/usermod" := by decide +kernel
  rw [same] at unmistakable
  rw [display] at shown
  exact ⟨mem, unmistakable, shown⟩

end Run

end Assignment

end SubordinateIds
