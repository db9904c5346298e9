import Offside.Text.Lowercase
import Offside.Toml.Table

/-!
# Trees of settings

What the layers of settings say is laid over each other in one tree. A value remembers the name of
the file it was read from. Keys of tables that were laid over each other are in lower case.
-/

namespace Offside.Settings

/-- A value without parts. -/
inductive Scalar where
  | null
  | bool (b : Bool)
  | int (n : Int)
  | float (x : Binary64)
  | text (s : String)
deriving DecidableEq, Repr

/-- A tree of settings; `origin?` names the file a value stands in. -/
inductive Tree where
  | scalar (origin? : Option String) (value : Scalar)
  | list (origin? : Option String) (items : List Tree)
  | table (origin? : Option String) (entries : List (String × Tree))
deriving Repr, Inhabited

namespace Tree

def null : Tree := .scalar none .null

def text (s : String) : Tree := .scalar none (.text s)

def bool (b : Bool) : Tree := .scalar none (.bool b)

/-- The entries of a table; other trees have none. -/
def entries : Tree → List (String × Tree)
  | .table _ entries => entries
  | _ => []

/-- The items of a list; other trees have none. -/
def items : Tree → List Tree
  | .list _ items => items
  | _ => []

def origin? : Tree → Option String
  | .scalar origin? _ | .list origin? _ | .table origin? _ => origin?

def get? (key : String) (tree : Tree) : Option Tree :=
  tree.entries.lookup key

/-- Gives a key a tree, in a table; anything else becomes a table first. -/
def set (tree : Tree) (key : String) (value : Tree) : Tree :=
  let entries := tree.entries
  let entries :=
    if entries.any (·.1 == key) then
      entries.map fun entry => if entry.1 == key then (key, value) else entry
    else entries ++ [(key, value)]
  match tree with
  | .table origin? _ => .table origin? entries
  | _ => .table none entries

/-- The item at an index of a list; a negative index counts from the end. -/
def position (index : Int) (count : Nat) : Nat :=
  if 0 ≤ index then index.toNat else count - index.natAbs

/-- Changes the item at an index, in a list; anything else becomes a list first, and a list that is
too short is filled up. -/
def alterItem (index : Int) (change : Tree → Tree) (tree : Tree) : Tree :=
  let items := tree.items
  let i := position index items.length
  let items := (items ++ List.replicate (i + 1 - items.length) null).modify i change
  match tree with
  | .list origin? _ => .list origin? items
  | _ => .list none items

mutual

/-- Lays a tree over what a table holds under a key. A table is laid over entry by entry, and
anything else takes the place of what is there. -/
def overlay (key : String) : Tree → Tree → Tree
  | .table _ entries, below =>
    let key := lowercase key
    below.set key (overlayEntries entries ((below.get? key).getD (.table none [])))
  | value, below => below.set (lowercase key) value

/-- Lays entries over a table, one after the other. -/
def overlayEntries : List (String × Tree) → Tree → Tree
  | [], below => below
  | (key, value) :: rest, below => overlayEntries rest (overlay key value below)

end

mutual

def ofToml (origin? : Option String) : Toml.Value → Tree
  | .bool b => .scalar origin? (.bool b)
  | .int n => .scalar origin? (.int n)
  | .float x => .scalar origin? (.float x)
  | .text s => .scalar origin? (.text s)
  | .moment m => .scalar origin? (.text m.render)
  | .array items => .list origin? (ofTomlItems origin? items)
  | .table entries => .table origin? (ofTomlEntries origin? entries)

def ofTomlItems (origin? : Option String) : List Toml.Value → List Tree
  | [] => []
  | item :: rest => ofToml origin? item :: ofTomlItems origin? rest

def ofTomlEntries (origin? : Option String) : List (String × Toml.Value) → List (String × Tree)
  | [] => []
  | (key, value) :: rest => (key, ofToml origin? value) :: ofTomlEntries origin? rest

end

end Tree

end Offside.Settings
