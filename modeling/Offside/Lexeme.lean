/-!
# Lexemes

A line is cut into the pieces that strings, comments and brackets are made of. The two halves of a
comment mark are pieces of their own, because whether they form a mark depends on what stands
around them. Main statement: no character is lost (`Lexeme.chars_ofLine`).
-/

namespace Offside

/-- A piece of a line. -/
inductive Lexeme where
  | quote
  | backslash
  | slash
  | star
  | openBrace
  | closeBrace
  | space (run : List Char)
  | text (run : List Char)
deriving DecidableEq, Repr

namespace Lexeme

def chars : Lexeme → List Char
  | quote => ['"']
  | backslash => ['\\']
  | slash => ['/']
  | star => ['*']
  | openBrace => ['{']
  | closeBrace => ['}']
  | space run => run
  | text run => run

/-- Puts one character in front of pieces; a space or text character joins a run of its kind. -/
def cons (c : Char) (rest : List Lexeme) : List Lexeme :=
  if c = '"' then quote :: rest
  else if c = '\\' then backslash :: rest
  else if c = '/' then slash :: rest
  else if c = '*' then star :: rest
  else if c = '{' then openBrace :: rest
  else if c = '}' then closeBrace :: rest
  else if c = ' ' ∨ c = '\t' then
    match rest with
    | space run :: rest => space (c :: run) :: rest
    | rest => space [c] :: rest
  else
    match rest with
    | text run :: rest => text (c :: run) :: rest
    | rest => text [c] :: rest

def ofLine (line : List Char) : List Lexeme :=
  line.foldr cons []

@[simp] theorem chars_cons (c : Char) (rest : List Lexeme) :
    (cons c rest).flatMap chars = c :: rest.flatMap chars := by
  fun_cases cons c rest <;> simp_all [chars]

/-- The pieces of a line, put together again, are the line. -/
@[simp] theorem chars_ofLine (line : List Char) : (ofLine line).flatMap chars = line := by
  induction line with
  | nil => rfl
  | cons c line ih => simpa [ofLine] using ih

end Lexeme

end Offside
