/-!
# Readers

A reader takes characters off the front of a text and answers a value, or refuses the text. An
alternative starts again where the refused reader started.
-/

namespace Offside

/-- Takes characters off the front of a text, or refuses it. -/
abbrev Reader (α : Type) : Type := StateT (List Char) Option α

namespace Reader

def refuse : Reader α := fun _ => none

def require (condition : Bool) : Reader Unit :=
  if condition then pure () else refuse

/-- The next character; it has to be in the class. -/
def satisfy (p : Char → Bool) : Reader Char
  | c :: rest => if p c then some (c, rest) else none
  | [] => none

def char (c : Char) : Reader Unit :=
  discard (satisfy (· == c))

def word (text : String) : Reader Unit := fun input =>
  if text.toList.isPrefixOf input then some ((), input.drop text.length) else none

/-- The longest run of characters in the class; it may be empty. -/
def run (p : Char → Bool) : Reader (List Char) := fun input =>
  some (input.span p)

/-- The longest run of characters in the class, of at least one. -/
def run1 (p : Char → Bool) : Reader (List Char) := do
  let chars ← run p
  require !chars.isEmpty
  return chars

/-- Exactly `count` characters of the class. -/
def exactly (count : Nat) (p : Char → Bool) : Reader (List Char) := fun input =>
  let chars := input.take count
  if chars.length = count ∧ chars.all p then some (chars, input.drop count) else none

/-- What the reader answers, or nothing where it refuses. -/
def optional? (reader : Reader α) : Reader (Option α) := fun input =>
  match reader input with
  | some (a, rest) => some (some a, rest)
  | none => some (none, input)

/-- The text goes on, but not with a character of the class; or it ends here. -/
def notBefore (p : Char → Bool) : Reader Unit := fun input =>
  match input with
  | c :: _ => if p c then none else some ((), input)
  | [] => some ((), input)

/-- Applies the reader, which must take at least one character each time, as often as it accepts. -/
def many (reader : Reader α) : Reader (List α) := fun input =>
  some (go input.length input)
where
  go : Nat → List Char → List α × List Char
    | 0, input => ([], input)
    | fuel + 1, input =>
      match reader input with
      | some (a, rest) =>
        let (more, rest) := go fuel rest
        (a :: more, rest)
      | none => ([], input)

/-- Readings with a separator between each two of them, at least one. -/
def sepBy1 (separator : Reader β) (reader : Reader α) : Reader (List α) := do
  let first ← reader
  let more ← many (do discard separator; reader)
  return first :: more

def whole? (reader : Reader α) (text : List Char) : Option α :=
  match reader text with
  | some (a, []) => some a
  | _ => none

end Reader

end Offside
