import Offside.Segment

/-!
# Marking a line

What a piece of a line counts as depends on the mode it is met in. `Marking.read` follows the mode
through the pieces of a line. Main statement: the segments of a line, put together again, are the
line (`Marking.source_read`).
-/

namespace Offside

/-- What a place of a text lies in. -/
inductive Mode where
  | code
  | string
  | lineComment
  | blockComment (openedAt : Nat)
deriving DecidableEq, Repr

namespace Mode

def inBlockComment : Mode → Bool
  | blockComment _ => true
  | _ => false

/-- The line on which the block comment around the place was opened. -/
def openedAt? : Mode → Option Nat
  | blockComment openedAt => some openedAt
  | _ => none

/-- The mode behind the end of a line: a line comment ends with its line. -/
def afterLine : Mode → Mode
  | lineComment => code
  | mode => mode

theorem inBlockComment_afterLine (mode : Mode) :
    mode.afterLine.inBlockComment = mode.inBlockComment := by
  cases mode <;> rfl

end Mode

/-- A line cut into segments, and the mode at its end. -/
structure Marking where
  segments : List Segment
  mode : Mode
deriving DecidableEq, Repr

namespace Marking

def cons (segment : Segment) (marking : Marking) : Marking :=
  { marking with segments := segment :: marking.segments }

/-- The segment of a piece of code that opens nothing. -/
def codeSegment : Lexeme → Segment
  | .openBrace => .openBrace
  | .closeBrace => .closeBrace
  | .space run => .space run
  | lexeme => .code lexeme.chars

/-- Reads the pieces of the line with the given number. A backslash in code or in a string takes
the piece after it along as plain code, so neither a quote nor a bracket nor half of a comment
mark can act there. -/
def read (number : Nat) : Mode → List Lexeme → Marking
  | mode, [] => ⟨[], mode⟩
  | .code, .slash :: .slash :: rest =>
    ⟨[.lineComment ('/' :: '/' :: rest.flatMap Lexeme.chars)], .lineComment⟩
  | .code, .slash :: .star :: rest => (read number (.blockComment number) rest).cons .opener
  | .code, .backslash :: lexeme :: rest =>
    ((read number .code rest).cons (.code lexeme.chars)).cons (.code ['\\'])
  | .code, .quote :: rest => (read number .string rest).cons (.code ['"'])
  | .code, lexeme :: rest => (read number .code rest).cons (codeSegment lexeme)
  | .string, .backslash :: lexeme :: rest =>
    ((read number .string rest).cons (.code lexeme.chars)).cons (.code ['\\'])
  | .string, .quote :: rest => (read number .code rest).cons (.code ['"'])
  | .string, lexeme :: rest => (read number .string rest).cons (.code lexeme.chars)
  | .blockComment _, .star :: .slash :: rest => (read number .code rest).cons .closer
  | .blockComment openedAt, lexeme :: rest =>
    (read number (.blockComment openedAt) rest).cons (.comment lexeme.chars)
  | .lineComment, lexemes => ⟨[.lineComment (lexemes.flatMap Lexeme.chars)], .lineComment⟩

theorem source_codeSegment (lexeme : Lexeme) : (codeSegment lexeme).source = lexeme.chars := by
  cases lexeme <;> rfl

/-- Every character of a line lies in exactly one segment. -/
theorem source_read (number : Nat) (mode : Mode) (lexemes : List Lexeme) :
    (read number mode lexemes).segments.flatMap Segment.source = lexemes.flatMap Lexeme.chars := by
  fun_induction read number mode lexemes with
  | case6 lexeme rest _ _ _ _ ih => simp [cons, source_codeSegment, ih]
  | _ => simp_all [cons, Segment.source, Lexeme.chars]

end Marking

end Offside
