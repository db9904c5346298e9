import Offside.Toml.Tagged

/-!
# Documents of TOML

A document is a list of statements: headers, which open tables, and assignments, which put values
into the table opened last. `Document.read?` answers the table of a whole document.
-/

namespace Offside.Toml

open Reader

/-- How deep arrays and tables may lie inside of each other in a value, and how many parts a
dotted key may have. -/
def depthLimit : Nat := 79

def isBareKeyChar (c : Char) : Bool :=
  c.isAlphanum || c == '_' || c == '-'

def keyPart : Reader String :=
  (do return String.ofList (← run1 isBareKeyChar)) <|> basicText <|> literalText

/-- A key, the parts of which are separated by points. -/
def key : Reader (List String) := do
  let parts ← sepBy1 (char '.') (do blanks; let part ← keyPart; blanks; return part)
  require (parts.length ≤ depthLimit)
  return parts

/-- The value of an assignment, given how values are read. -/
def assignment (value : Reader Value) : Reader (List String × Value) := do
  let path ← key
  char '='
  blanks
  return (path, ← value)

/-- The items of an array; a comma may follow the last one. -/
def arrayItems (item : Reader Value) : Reader (List Value) := do
  gap
  let items? ← optional? do
    let items ← sepBy1 (do gap; char ','; gap) item
    gap
    discard (optional? (char ','))
    gap
    return items
  char ']'
  return items?.getD []

/-- The assignments of a table in braces, on one line. -/
def braceItems (item : Reader (List String × Value)) : Reader (List (List String × Value)) := do
  blanks
  let items? ← optional? (sepBy1 (do blanks; char ','; blanks) item)
  blanks
  char '\x7d'
  return items?.getD []

/-- A value that holds arrays and tables at most `depth` levels deep. -/
def value : (depth : Nat) → Reader Value
  | 0 => scalar
  | depth + 1 =>
    (do char '['; return .array (← arrayItems (value depth))) <|>
    (do
      char '\x7b'
      match inlineTable (← braceItems (assignment (value depth))) with
      | some table => return table
      | none => refuse) <|>
    scalar
where
  scalar : Reader Value :=
    (do return .text (← anyText)) <|>
    (do return .moment (← readMoment)) <|>
    (do return .float (← floatNumber)) <|>
    (do return .int (← wholeNumber)) <|>
    (do word "true"; return .bool true) <|>
    (do word "false"; return .bool false)

/-- A line of a document that says something. -/
inductive Statement where
  | header (path : List String)
  | nextHeader (path : List String)
  | assign (path : List String) (value : Value)

def statement : Reader Statement := do
  let statement ←
    (do word "[["; let path ← key; word "]]"; return .nextHeader path) <|>
    (do char '['; let path ← key; char ']'; return .header path) <|>
    (do let (path, value) ← assignment (value depthLimit); return .assign path value)
  trailing
  return statement

def emptyLine : Reader Unit :=
  (do comment; lineEnd) <|> lineFeed

def statements : Reader (List Statement) := do
  discard (optional? (char '\uFEFF'))
  blanks
  let lines ← many do
    let line ← (do emptyLine; return none) <|> (do return some (← statement))
    blanks
    return line
  return lines.filterMap id

/-- A document under construction: its tables, and the path of the one opened last. -/
structure Document where
  entries : Entries := []
  current : List String := []

namespace Document

/-- Takes in a statement, unless the tables do not admit it. -/
def take (document : Document) : Statement → Option Document
  | .header path => do
    return { entries := ← document.entries.openTable path, current := path }
  | .nextHeader path => do
    return { entries := ← document.entries.openNextTable path, current := path }
  | .assign path value => do
    let (_, entries) ←
      Entries.alter false (Entries.assign path value) document.current .opened document.entries
    return { document with entries }

/-- The table of a document, if the text is one. A document that stands for a moment as a whole has
none. -/
def read? (text : String) : Option (List (String × Value)) := do
  let statements ← whole? statements text.toList
  let document ← statements.foldlM take {}
  match ← (Value.table (Entries.values document.entries)).untag? with
  | .table entries => return entries
  | _ => none

end Document

end Offside.Toml
