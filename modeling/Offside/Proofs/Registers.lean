import Offside.StrippedLine

/-! Lines read with registers, each of which is written on its own: what a place lies in, where the
open block comment was opened, and the brackets. A line that is rejected leaves them as they are at
that place. Main statement: they show what the lines carry over (`Registers.readLine_ofCarry`). -/

namespace Offside

/-- What a place of a text lies in, whatever line it was opened on. -/
inductive Place where
  | code
  | string
  | lineComment
  | blockComment
deriving DecidableEq, Repr

def Mode.place : Mode → Place
  | code => .code
  | string => .string
  | lineComment => .lineComment
  | blockComment _ => .blockComment

section Mode

variable {mode : Mode}

theorem Mode.place_eq_string_iff : mode.place = .string ↔ mode = .string := by
  cases mode <;> simp [place]

theorem Mode.place_eq_lineComment_iff : mode.place = .lineComment ↔ mode = .lineComment := by
  cases mode <;> simp [place]

theorem Mode.openedAt?_eq_some_iff :
    mode.openedAt? = some openedAt ↔ mode = .blockComment openedAt := by
  cases mode <;> simp [openedAt?]

theorem Mode.isSome_openedAt?_iff : mode.openedAt?.isSome ↔ mode.place = .blockComment := by
  cases mode <;> simp [openedAt?, place]

end Mode

structure Registers where
  place : Place := .code
  /-- The line on which a block comment was opened. -/
  openedAt? : Option Nat := none
  nesting : Nesting := {}
deriving DecidableEq, Repr

namespace Registers

/-- Reads the pieces of the line with the given number, one by one; `escaped` says that a backslash
stands before the next piece. -/
def read (number : Nat) : Registers → (escaped : Bool) → List Lexeme → Option Cause × Registers
  | registers, _, [] => (none, registers)
  | ⟨.code, openedAt?, nesting⟩, true, _ :: rest =>
    read number ⟨.code, openedAt?, nesting⟩ false rest
  | ⟨.code, openedAt?, nesting⟩, false, .slash :: .slash :: _ =>
    (none, ⟨.lineComment, openedAt?, nesting⟩)
  | ⟨.code, _, nesting⟩, false, .slash :: .star :: rest =>
    read number ⟨.blockComment, some number, nesting⟩ false rest
  | ⟨.code, openedAt?, nesting⟩, false, .quote :: rest =>
    read number ⟨.string, openedAt?, nesting⟩ false rest
  | ⟨.code, openedAt?, nesting⟩, false, .backslash :: rest =>
    read number ⟨.code, openedAt?, nesting⟩ true rest
  | ⟨.code, openedAt?, nesting⟩, false, .openBrace :: rest =>
    read number ⟨.code, openedAt?, nesting.push⟩ false rest
  | ⟨.code, openedAt?, nesting⟩, false, .closeBrace :: rest =>
    match nesting.pop with
    | .ok inner => read number ⟨.code, openedAt?, inner⟩ false rest
    | .error cause => (some cause, ⟨.code, openedAt?, nesting⟩)
  | ⟨.code, openedAt?, nesting⟩, false, _ :: rest =>
    read number ⟨.code, openedAt?, nesting⟩ false rest
  | ⟨.string, openedAt?, nesting⟩, true, _ :: rest =>
    read number ⟨.string, openedAt?, nesting⟩ false rest
  | ⟨.string, openedAt?, nesting⟩, false, .quote :: rest =>
    read number ⟨.code, openedAt?, nesting⟩ false rest
  | ⟨.string, openedAt?, nesting⟩, false, .backslash :: rest =>
    read number ⟨.string, openedAt?, nesting⟩ true rest
  | ⟨.string, openedAt?, nesting⟩, false, _ :: rest =>
    read number ⟨.string, openedAt?, nesting⟩ false rest
  | ⟨.blockComment, _, nesting⟩, escaped, .star :: .slash :: rest =>
    read number ⟨.code, none, nesting⟩ escaped rest
  | ⟨.blockComment, openedAt?, nesting⟩, escaped, _ :: rest =>
    read number ⟨.blockComment, openedAt?, nesting⟩ escaped rest
  | ⟨.lineComment, openedAt?, nesting⟩, _, _ :: _ => (none, ⟨.lineComment, openedAt?, nesting⟩)

/-- Ends the line: a string must not be left open, and a line comment ends as well. -/
def endLine (registers : Registers) : Option Cause × Registers :=
  match registers.place with
  | .string => (some .unterminatedString, registers)
  | .lineComment => (none, { registers with place := .code })
  | .code | .blockComment => (none, registers)

/-- Reads a line, and answers what is wrong with it. -/
def readLine (number : Nat) (line : String) (registers : Registers) : Option Cause × Registers :=
  match registers.read number false (Lexeme.ofLine line.toList) with
  | (none, registers) => registers.endLine
  | failed => failed

/-- What the registers show of what is carried from line to line. -/
def ofCarry (carry : Carry) : Registers :=
  { place := carry.mode.place, openedAt? := carry.mode.openedAt?, nesting := carry.nesting }

section Plain

variable {lexeme : Lexeme} {rest : List Lexeme}

/-- In a string, a piece that neither closes it nor escapes another changes nothing. -/
theorem read_string (number : Nat) (openedAt? : Option Nat) (nesting : Nesting)
    (noEscape : ∀ next tail, lexeme = .backslash → rest = next :: tail → False)
    (noQuote : lexeme = .quote → False) :
    read number ⟨.string, openedAt?, nesting⟩ false (lexeme :: rest) =
      read number ⟨.string, openedAt?, nesting⟩ false rest := by
  cases lexeme with
  | quote => exact (noQuote rfl).elim
  | backslash =>
    cases rest with
    | nil => rfl
    | cons next tail => exact (noEscape next tail rfl rfl).elim
  | _ => rfl

/-- In a block comment, a piece that does not close it changes nothing. -/
theorem read_comment (number : Nat) (openedAt? : Option Nat) (nesting : Nesting)
    (noClose : ∀ tail, lexeme = .star → rest = .slash :: tail → False) :
    read number ⟨.blockComment, openedAt?, nesting⟩ false (lexeme :: rest) =
      read number ⟨.blockComment, openedAt?, nesting⟩ false rest := by
  rw [read]
  exact noClose

end Plain

/-- The registers follow the mode and count the brackets. The brackets are counted up to one that
closes nothing, where all registers are as new. -/
theorem read_ofCarry (number : Nat) (carry : Carry) (lexemes : List Lexeme) :
    (ofCarry carry).read number false lexemes =
      let marking := Marking.read number carry.mode lexemes
      match Segment.follow carry.nesting marking.segments with
      | .ok nesting => (none, ofCarry ⟨marking.mode, nesting⟩)
      | .error cause => (some cause, {}) := by
  obtain ⟨mode, nesting⟩ := carry
  fun_induction Marking.read number mode lexemes generalizing nesting with
  | case1 | case2 => rfl
  | case3 rest ih | case4 _ rest ih | case5 rest ih | case7 _ rest ih | case8 rest ih
  | case10 _ rest ih => exact ih nesting
  | case6 lexeme rest noLine noBlock noEscape noQuote ih =>
    cases lexeme with
    | openBrace => exact ih nesting.push
    | closeBrace =>
      obtain ⟨depth⟩ := nesting
      cases depth with
      | zero => rfl
      | succ depth => exact ih ⟨depth⟩
    | quote => exact (noQuote rfl).elim
    | backslash =>
      cases rest with
      | nil => rfl
      | cons next tail => exact (noEscape next tail rfl rfl).elim
    | slash =>
      cases rest with
      | nil => rfl
      | cons next tail =>
        cases next with
        | slash => exact (noLine tail rfl rfl).elim
        | star => exact (noBlock tail rfl rfl).elim
        | _ => exact ih nesting
    | _ => exact ih nesting
  | case9 lexeme rest noEscape noQuote ih =>
    have marked : Marking.read number .string (lexeme :: rest) =
        (Marking.read number .string rest).cons (.code lexeme.chars) := by
      rw [Marking.read] <;> assumption
    rw [marked]
    exact (read_string number none nesting noEscape noQuote).trans (ih nesting)
  | case11 openedAt lexeme rest noClose ih =>
    have marked : Marking.read number (.blockComment openedAt) (lexeme :: rest) =
        (Marking.read number (.blockComment openedAt) rest).cons (.comment lexeme.chars) := by
      rw [Marking.read]
      exact noClose
    rw [marked]
    exact (read_comment number (some openedAt) nesting noClose).trans (ih nesting)
  | case12 lexemes some =>
    have marked : Marking.read number .lineComment lexemes =
        ⟨[.lineComment (lexemes.flatMap Lexeme.chars)], .lineComment⟩ := by
      rw [Marking.read]
      exact some
    rw [marked]
    cases lexemes <;> rfl

/-- Line for line the registers show what is carried over, also behind a line that is rejected. -/
theorem readLine_ofCarry (tail : CommentTail) (number : Nat) (line : String) (carry : Carry) :
    (ofCarry carry).readLine number line =
      match carry.strip tail number line with
      | (.ok _, after) => (none, ofCarry after)
      | (.error fault, after) => (some fault.cause, ofCarry after) := by
  simp only [readLine, read_ofCarry, Carry.strip]
  cases Segment.follow carry.nesting
      (Marking.read number carry.mode (Lexeme.ofLine line.toList)).segments with
  | error cause => rfl
  | ok nesting =>
    cases (Marking.read number carry.mode (Lexeme.ofLine line.toList)).mode <;> rfl

end Registers

end Offside
