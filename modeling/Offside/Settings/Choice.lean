import Offside.Settings.Refusal
import Offside.StrippedLine

/-!
# Choices

A setting that admits a few named values. In settings the case of a name does not matter; where a
name is read on its own it does.
-/

namespace Offside.Settings

/-- The named values of a setting. -/
structure Choices (α : Type) where
  title : String
  values : List (String × α)

namespace Choices

def find? (choices : Choices α) (name : String) : Option α :=
  (choices.values.find? fun value => lowercase value.1 == lowercase name).map (·.2)

/-- The value that a tree chooses: by its name, or by the only key of a table. -/
def ofTree (choices : Choices α) (tree : Tree) : Except Refusal α :=
  let name? := match tree with
    | .scalar _ (.text name) => some name
    | .table _ [(name, _)] => some name
    | _ => none
  match name? with
  | some name =>
    match choices.find? name with
    | some value => .ok value
    | none => .error (.unknownChoice choices.title name)
  | none => .error (.notChoice choices.title)

def expected (choices : Choices α) : String :=
  let names := choices.values.map fun value => s!"`{value.1}`"
  match names with
  | [name] => name
  | [first, second] => first ++ " or " ++ second
  | names => "one of " ++ ", ".intercalate names

/-- The value with exactly this name, or what is said if there is none. -/
def exactly (choices : Choices α) (name : String) : Except String α :=
  match choices.values.lookup name with
  | some value => .ok value
  | none => .error (s!"unknown variant `{name}`, expected " ++ choices.expected)

def nameOf [DecidableEq α] (choices : Choices α) (value : α) : String :=
  ((choices.values.find? fun other => other.2 = value).map (·.1)).getD ""

end Choices

/-- How the result of a run is written. -/
inductive OutputFormat where
  | text
  | json
  | yaml
deriving DecidableEq, Repr

/-- The values for what becomes of the spaces a block comment leaves at the end of a line. -/
def commentTails : Choices CommentTail :=
  ⟨"BlockCommentTail", [("trim", .trim), ("pad", .pad)]⟩

def outputFormats : Choices OutputFormat :=
  ⟨"OutputFormat", [("text", .text), ("json", .json), ("yaml", .yaml)]⟩

end Offside.Settings
