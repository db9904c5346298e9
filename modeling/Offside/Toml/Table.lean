import Offside.Toml.Moment

/-!
# Tables of TOML

A document builds its tables statement by statement, and a table may be opened only once: whether
more may be put into it depends on how it came about. `Node` is a tree under construction; a
finished tree is a `Value`.
-/

namespace Offside.Toml

/-- A value of a document. -/
inductive Value where
  | bool (b : Bool)
  | int (n : Int)
  | float (x : Binary64)
  | text (s : String)
  | moment (m : Moment)
  | array (items : List Value)
  | table (entries : List (String × Value))
deriving Repr

/-- How a table came about. -/
inductive Standing where
  /-- It was opened by a header of its own. -/
  | opened
  /-- It lies on the path of another header. -/
  | implied
  /-- It lies on the path of a dotted key. -/
  | dotted
deriving DecidableEq, Repr

/-- A tree under construction. -/
inductive Node where
  | leaf (value : Value)
  | table (standing : Standing) (entries : List (String × Node))
  /-- The tables opened by headers in double brackets, in their order. -/
  | tables (items : List (List (String × Node)))

abbrev Entries : Type := List (String × Node)

namespace Entries

/-- Gives a key a new value; a new key goes behind the others. -/
def set (key : String) (node : Node) (entries : Entries) : Entries :=
  if entries.any (·.1 == key) then
    entries.map fun entry => if entry.1 == key then (key, node) else entry
  else entries ++ [(key, node)]

def setLast (key : String) (node : Node) (entries : Entries) : Entries :=
  entries.filter (·.1 != key) ++ [(key, node)]

/-- Changes the table at the end of a path. Missing tables on the way come about, by a dotted key
or by a header. A path may lead through the last of several tables with one name, but not through
a value, and a dotted key not through a table that has a header of its own. -/
def alter (dotted : Bool) (change : Standing → Entries → Option (Standing × Entries)) :
    List String → Standing → Entries → Option (Standing × Entries)
  | [], standing, entries => change standing entries
  | key :: path, standing, entries =>
    match entries.lookup key with
    | none => do
      let (inner, changed) ← alter dotted change path (if dotted then .dotted else .implied) []
      return (standing, entries.set key (.table inner changed))
    | some (.leaf _) => none
    | some (.table inner below) => do
      if dotted && inner == .opened then none
      let (inner, changed) ← alter dotted change path inner below
      return (standing, entries.set key (.table inner changed))
    | some (.tables items) => do
      let (_, changed) ← alter dotted change path .opened (items.getLast?.getD [])
      return (standing, entries.set key (.tables (items.dropLast ++ [changed])))

/-- Puts a value under a path, seen from a table. Only tables that came about by dotted keys may
be extended by one, and no key gets a second value. -/
def assign (path : List String) (value : Value) (standing : Standing) (entries : Entries) :
    Option (Standing × Entries) :=
  match path.getLast? with
  | none => none
  | some key =>
    alter true (fun inner entries =>
      if (inner == .dotted) == path.dropLast.isEmpty || entries.any (·.1 == key) then none
      else some (inner, entries.set key (.leaf value)))
      path.dropLast standing entries

/-- Opens a table by a header. It may already lie on the path of another header; its place is where
it is opened. -/
def openTable (path : List String) (entries : Entries) : Option Entries :=
  match path.getLast? with
  | none => none
  | some key =>
    Prod.snd <$> alter false (fun standing entries =>
      match entries.lookup key with
      | none => some (standing, entries.set key (.table .opened []))
      | some (.table .implied below) => some (standing, entries.setLast key (.table .opened below))
      | some _ => none)
      path.dropLast .opened entries

def openNextTable (path : List String) (entries : Entries) : Option Entries :=
  match path.getLast? with
  | none => none
  | some key =>
    Prod.snd <$> alter false (fun standing entries =>
      match entries.lookup key with
      | none => some (standing, entries.set key (.tables [[]]))
      | some (.tables items) => some (standing, entries.set key (.tables (items ++ [[]])))
      | some _ => none)
      path.dropLast .opened entries

end Entries

mutual

def Node.value : Node → Value
  | .leaf value => value
  | .table _ entries => .table (Entries.values entries)
  | .tables items => .array (Entries.tableValues items)

def Entries.values : List (String × Node) → List (String × Value)
  | [] => []
  | (key, node) :: rest => (key, node.value) :: Entries.values rest

def Entries.tableValues : List (List (String × Node)) → List Value
  | [] => []
  | entries :: rest => .table (Entries.values entries) :: Entries.tableValues rest

end

/-- The table that comes about when values are put under paths, one after the other. -/
def inlineTable (pairs : List (List String × Value)) : Option Value := do
  let entries ← pairs.foldlM (fun entries (path, value) =>
    Prod.snd <$> Entries.assign path value .opened entries) []
  return .table (Entries.values entries)

end Offside.Toml
