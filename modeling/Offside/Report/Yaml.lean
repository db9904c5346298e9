import Offside.Decimal.Binary64
import Offside.Text.Reader

/-!
# Lines as a YAML document

A mapping with one key, the list of lines. A line is written plain where that reads back as the
same text, between single quotes where a plain one would read as something else, and between
double quotes where it holds characters that have to be escaped.
-/

namespace Offside.Report.Yaml

/-! ## Scalars that read as something other than a text -/

def isNull (text : String) : Bool :=
  ["", "null", "Null", "NULL", "~"].contains text

def isBool (text : String) : Bool :=
  ["true", "True", "TRUE", "false", "False", "FALSE"].contains text

def isSign (c : Char) : Bool :=
  c == '+' || c == '-'

/-- Digits that start with a needless zero; they are no number. -/
def isZeroPadded (chars : List Char) : Bool :=
  let digits := match chars with
    | c :: rest => if isSign c then rest else chars
    | [] => []
  1 < digits.length && digits.head? == some '0' && digits.all Char.isDigit

/-- The number with the given digits, if they are digits of the base and there is one. -/
def digitsValue? (base : Nat) (digits : List Char) : Option Nat :=
  if digits.isEmpty then none
  else digits.foldlM (fun n c =>
    let digit :=
      if c.isDigit then some (c.toNat - '0'.toNat)
      else if 'a' ≤ c.toLower && c.toLower ≤ 'f' then some (c.toLower.toNat - 'a'.toNat + 10)
      else none
    match digit with
    | some digit => if digit < base then some (base * n + digit) else none
    | none => none) 0

/-- The number after a mark for its base; without a mark the base is ten. -/
def magnitude? : List Char → Option Nat
  | '0' :: 'x' :: digits => digitsValue? 16 digits
  | '0' :: 'o' :: digits => digitsValue? 8 digits
  | '0' :: 'b' :: digits => digitsValue? 2 digits
  | digits => digitsValue? 10 digits

/-- A plain whole number, of 128 bits with a sign or without. -/
def isInt (text : String) : Bool :=
  let chars := text.toList
  if isZeroPadded chars then false
  else
    match chars with
    | '-' :: digits => (magnitude? digits).any fun n => n ≤ Nat.pow 2 127
    | '+' :: digits => (magnitude? digits).any fun n => n < Nat.pow 2 128
    | digits => (magnitude? digits).any fun n => n < Nat.pow 2 128

/-- Reads the digits of a floating point number; there is one before or behind the point. -/
def decimal : Reader Binary64 := do
  let whole ← Reader.run Char.isDigit
  let fraction? ← Reader.optional? (do Reader.char '.'; Reader.run Char.isDigit)
  let fraction := fraction?.getD []
  Reader.require !(whole.isEmpty && fraction.isEmpty)
  let exponent? ← Reader.optional? do
    discard (Reader.satisfy fun c => c == 'e' || c == 'E')
    let sign? ← Reader.optional? (Reader.satisfy isSign)
    let magnitude : Int := (digitsValue? 10 (← Reader.run1 Char.isDigit)).getD 0
    return if sign? == some '-' then -magnitude else magnitude
  return .ofDecimal false ((digitsValue? 10 (whole ++ fraction)).getD 0)
    (exponent?.getD 0 - fraction.length)

/-- A plain floating point number. Digits stand for one only if their value is finite. -/
def isFloat (text : String) : Bool :=
  let chars := text.toList
  let unsigned := match chars with
    | c :: rest => if isSign c then rest else chars
    | [] => []
  if isZeroPadded chars then false
  else if [".inf", ".Inf", ".INF"].contains (String.ofList unsigned) then true
  else if [".nan", ".NaN", ".NAN"].contains text then true
  else
    match Reader.whole? decimal unsigned with
    | some value => value != .infinite false
    | none => false

/-- Whether a plain text would read as something other than a text. -/
def readsOtherwise (text : String) : Bool :=
  isNull text || isBool text || isInt text || isFloat text || isZeroPadded text.toList

/-! ## Characters that need quotes -/

/-- A character that a document may hold as it is, line ends apart. -/
def isPlainChar (c : Char) : Bool :=
  let code := c.toNat
  (0x20 ≤ code && code ≤ 0x7E) || (0xA0 ≤ code && code ≤ 0xD7FF) ||
    (0xE000 ≤ code && code ≤ 0xFFFD && code != 0xFEFF) || 0x10000 ≤ code

def isBreak (c : Char) : Bool :=
  c == '\n' || c == '\r' || c == '\u0085' || c == '\u2028' || c == '\u2029'

def isGap (c : Char) : Bool :=
  c == ' ' || c == '\t' || c == '\x00' || isBreak c

def needsEscapes (chars : List Char) : Bool :=
  chars.any fun c => !isPlainChar c || isBreak c

def isIndicator (c : Char) : Bool :=
  "#,[]\x7b\x7d&*!|>'\"%@`".toList.contains c

def gapNext (rest : List Char) : Bool :=
  rest.head?.all isGap

/-- Whether a colon before a gap, or a number sign behind one, stands behind the first
character. -/
def hasMark : List Char → Bool
  | c :: d :: rest => (d == ':' && gapNext rest) || (d == '#' && isGap c) || hasMark (d :: rest)
  | _ => false

/-- Whether a text that needs no escapes and reads as a text may be written plain. -/
def isPlain (chars : List Char) : Bool :=
  match chars with
  | [] => false
  | first :: rest =>
    !(isIndicator first || ((first == '?' || first == ':' || first == '-') && gapNext rest) ||
      ['-', '-', '-'].isPrefixOf chars || ['.', '.', '.'].isPrefixOf chars || hasMark chars ||
      first == ' ' || chars.getLast? == some ' ')

/-! ## Writing -/

/-- Upper case hexadecimal digits, with zeros in front up to the width. -/
def hex (width n : Nat) : List Char :=
  let digits := (Nat.toDigits 16 n).map Char.toUpper
  List.replicate (width - digits.length) '0' ++ digits

def escaped (c : Char) : List Char :=
  if isPlainChar c && !isBreak c && c != '"' && c != '\\' then [c]
  else
    match c with
    | '\x00' => ['\\', '0']
    | '\x07' => ['\\', 'a']
    | '\x08' => ['\\', 'b']
    | '\t' => ['\\', 't']
    | '\n' => ['\\', 'n']
    | '\x0b' => ['\\', 'v']
    | '\x0c' => ['\\', 'f']
    | '\r' => ['\\', 'r']
    | '\x1b' => ['\\', 'e']
    | '"' => ['\\', '"']
    | '\\' => ['\\', '\\']
    | '\u0085' => ['\\', 'N']
    | '\u2028' => ['\\', 'L']
    | '\u2029' => ['\\', 'P']
    | c =>
      if c.toNat ≤ 0xFF then ['\\', 'x'] ++ hex 2 c.toNat
      else if c.toNat ≤ 0xFFFF then ['\\', 'u'] ++ hex 4 c.toNat
      else ['\\', 'U'] ++ hex 8 c.toNat

/-- A text between single quotes, which are doubled inside. -/
def singleQuoted (chars : List Char) : List Char :=
  '\'' :: chars.flatMap (fun c => if c = '\'' then ['\'', '\''] else [c]) ++ ['\'']

def doubleQuoted (chars : List Char) : List Char :=
  '"' :: chars.flatMap escaped ++ ['"']

def scalar (text : String) : String :=
  let chars := text.toList
  String.ofList <|
    if needsEscapes chars then doubleQuoted chars
    else if readsOtherwise text || !isPlain chars then singleQuoted chars
    else chars

def document (lines : List String) : String :=
  if lines.isEmpty then "lines: []\n"
  else "lines:\n" ++ String.join (lines.map fun line => "- " ++ scalar line ++ "\n")

end Offside.Report.Yaml
