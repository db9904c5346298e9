import Offside.Toml.Table

/-!
# Tagged tables

A table can stand for a date or a time: the tag `momentTag` is its first key then, and the moment is
written in the text under it. `Value.untag?` puts the moments in place of such tables.
-/

namespace Offside.Toml

/-- The key that tags a table as a moment. -/
def momentTag : String := "$__toml_private_datetime"

/-- The value under the tag, in a table that has the tag for its first key. -/
def tagged? : List (String × Value) → Option Value
  | (key, value) :: _ => if key = momentTag then some value else none
  | [] => none

mutual

/-- The value with moments in place of all tagged tables. A tagged table has to hold the text of a
moment; nothing else in it counts. -/
def Value.untag? : Value → Option Value
  | .table entries =>
    match tagged? entries with
    | some (.text s) => .moment <$> Moment.ofText? s
    | some _ => none
    | none => .table <$> untagEntries? entries
  | .array items => .array <$> untagItems? items
  | value => some value

/-- The items of an array, with moments in place of all tagged tables. -/
def untagItems? : List Value → Option (List Value)
  | [] => some []
  | item :: rest => do return (← item.untag?) :: (← untagItems? rest)

/-- The entries of a table, with moments in place of all tagged tables. -/
def untagEntries? : List (String × Value) → Option (List (String × Value))
  | [] => some []
  | (key, value) :: rest => do return (key, ← value.untag?) :: (← untagEntries? rest)

end

end Offside.Toml
