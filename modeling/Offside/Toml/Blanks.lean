import Offside.Text.Reader

/-!
# Blanks, line ends and comments of TOML

Between values a document holds spaces, tabs, comments and line ends, and nothing else that is
invisible.
-/

namespace Offside.Toml

open Reader

def isBlankChar (c : Char) : Bool :=
  c == ' ' || c == '\t'

/-- What may stand in a comment: everything but control characters, and the tab. -/
def isCommentChar (c : Char) : Bool :=
  c == '\t' || (0x20 ≤ c.toNat && c.toNat != 0x7F)

def blanks : Reader Unit :=
  discard (run isBlankChar)

/-- A line feed, perhaps behind a carriage return. -/
def lineFeed : Reader Unit :=
  word "\r\n" <|> char '\n'

def comment : Reader Unit := do
  char '#'
  discard (run isCommentChar)

/-- The end of a line, which may be the end of the document. -/
def lineEnd : Reader Unit := fun input =>
  if input.isEmpty then some ((), []) else lineFeed input

def trailing : Reader Unit := do
  blanks
  discard (optional? comment)
  lineEnd

/-- Blanks, line ends and comments, as they may stand between the items of an array. -/
def gap : Reader Unit :=
  discard <| many <|
    discard (satisfy isBlankChar) <|> (do discard (optional? comment); lineFeed)

end Offside.Toml
