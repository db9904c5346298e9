import Offside.Toml.Blanks

/-!
# Texts of TOML

There are four forms of texts: with escapes or without, on one line or on several.
-/

namespace Offside.Toml

open Reader

/-- A character from hexadecimal digits; the number must be that of a character. -/
def charOfHex (digits : List Char) : Reader Char := do
  let code := digits.foldl (fun n c => 16 * n + hexDigit c) 0
  require (code < 0xD800 || (0xDFFF < code && code ≤ 0x10FFFF))
  return Char.ofNat code
where
  hexDigit (c : Char) : Nat :=
    if c.isDigit then c.toNat - '0'.toNat else c.toLower.toNat - 'a'.toNat + 10

def isHexDigit (c : Char) : Bool :=
  c.isDigit || ('a' ≤ c && c ≤ 'f') || ('A' ≤ c && c ≤ 'F')

def escape : Reader Char := do
  match ← satisfy fun _ => true with
  | 'b' => return '\x08'
  | 't' => return '\t'
  | 'n' => return '\n'
  | 'f' => return '\x0c'
  | 'r' => return '\r'
  | '"' => return '"'
  | '\\' => return '\\'
  | 'u' => charOfHex (← exactly 4 isHexDigit)
  | 'U' => charOfHex (← exactly 8 isHexDigit)
  | _ => refuse

def isBasicChar (c : Char) : Bool :=
  isCommentChar c && c != '"' && c != '\\'

def isLiteralChar (c : Char) : Bool :=
  isCommentChar c && c != '\''

def basicText : Reader String := do
  char '"'
  let chars ← many (satisfy isBasicChar <|> do char '\\'; escape)
  char '"'
  return String.ofList chars

def literalText : Reader String := do
  char '\''
  let chars ← run isLiteralChar
  char '\''
  return String.ofList chars

/-- A backslash at the end of a line takes the line end and all blanks and line ends behind it
away. -/
def lineContinuation : Reader (List Char) := do
  char '\\'
  blanks
  lineFeed
  discard (many (discard (satisfy isBlankChar) <|> lineFeed))
  return []

def innerLineFeed : Reader (List Char) := do
  lineFeed
  return ['\n']

def innerQuotes (quote : Char) : Reader (List Char) := do
  let quotes ← run1 (· == quote)
  require (quotes.length ≤ 2)
  return quotes

/-- The three quotes that close a text, with up to two quotes of the text before them. -/
def closingQuotes (quote : Char) : Reader (List Char) := do
  let quotes ← run (· == quote)
  require (3 ≤ quotes.length && quotes.length ≤ 5)
  return quotes.drop 3

/-- A text on several lines; a line end right behind the opening quotes is no part of it. -/
def multilineText (quote : Char) (piece : Reader (List Char)) : Reader String := do
  word (String.ofList [quote, quote, quote])
  discard (optional? lineFeed)
  let pieces ← many (piece <|> innerLineFeed <|> innerQuotes quote)
  let last ← closingQuotes quote
  return String.ofList (pieces.flatten ++ last)

def multilineBasicText : Reader String :=
  multilineText '"' <|
    run1 isBasicChar <|> lineContinuation <|> (do char '\\'; return [← escape])

def multilineLiteralText : Reader String :=
  multilineText '\'' (run1 isLiteralChar)

def anyText : Reader String :=
  multilineBasicText <|> multilineLiteralText <|> basicText <|> literalText

end Offside.Toml
