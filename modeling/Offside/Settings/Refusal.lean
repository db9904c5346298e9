import Offside.Decimal.Shortest
import Offside.Settings.Tree
import Offside.Text.Quoted

/-!
# Why settings are refused

Each refusal has a cause of its own; the wording of those that a user can mend stands in
`Refusal.message`.
-/

namespace Offside.Settings

/-- The kind of a value that was found where another kind was expected. -/
inductive Found where
  | scalar (value : Scalar)
  | list
  | table
deriving DecidableEq, Repr

def Tree.found : Tree → Found
  | .scalar _ value => .scalar value
  | .list .. => .list
  | .table .. => .table

def Found.describe : Found → String
  | scalar .null => "unit value"
  | scalar (.bool b) => s!"boolean `{b}`"
  | scalar (.int n) => s!"integer `{n}`"
  | scalar (.float x) => s!"floating point `{x.render}`"
  | scalar (.text s) => "string " ++ quoted s
  | list => "sequence"
  | table => "map"

/-- A part of the settings, with the number of its entries and the way it is called. -/
structure Section where
  title : String
  size : Nat
deriving DecidableEq, Repr

/-- Why settings are refused. -/
inductive Refusal where
  | malformedKey (key : String)
  | malformedFile (path : String)
  | unreadableFile (path : String)
  /-- A truth value was expected under a key; `origin?` names the file. -/
  | notBoolean (found : Found) (key : String) (origin? : Option String)
  | notSection (found : Found) (expected : Section)
  | sectionTooShort (length : Nat) (expected : Section)
  | unknownChoice (choices given : String)
  | notChoice (choices : String)
  | missingEntry (name : String)
deriving DecidableEq, Repr

def Refusal.message : Refusal → String
  | malformedKey key => s!"invalid key {key}"
  | malformedFile path => s!"invalid document {path}"
  | unreadableFile path => s!"unreadable file {path}"
  | notBoolean found key origin? =>
    let place := match origin? with
      | some name => " in " ++ name
      | none => ""
    "invalid type: " ++ found.describe ++ s!", expected a boolean for key `{key}`" ++ place
  | notSection found expected =>
    "invalid type: " ++ found.describe ++ s!", expected struct {expected.title}"
  | sectionTooShort length expected =>
    let elements := if expected.size == 1 then "element" else "elements"
    s!"invalid length {length}, expected struct {expected.title} with {expected.size} {elements}"
  | unknownChoice choices given => s!"enum {choices} does not have variant constructor {given}"
  | notChoice choices =>
    s!"value of enum {choices} should be represented by either string or table with exactly one key"
  | missingEntry name => s!"missing field `{name}`"

end Offside.Settings
