import Offside.Settings.Choice
import Offside.Tracker

/-!
# Settings with types

The settings of a run, read from a tree. A section is a table, or a list of its entries in order;
entries it does not know are passed over. Of several refusals, those of entries come before those
of missing entries.
-/

namespace Offside

/-- The settings of a run. -/
structure Settings where
  /-- What becomes of the spaces a block comment leaves at the end of a line. -/
  blockTail : CommentTail := .trim
  strictPlacement : Bool := true
  format : Settings.OutputFormat := .text
deriving DecidableEq, Repr

namespace Settings

def options (settings : Settings) : Options where
  tail := settings.blockTail
  strict := settings.strictPlacement

/-- The truth value that a text stands for, in any case. -/
def truthOfText? (s : String) : Option Bool :=
  if ["1", "true", "on", "yes"].contains (lowercase s) then some true
  else if ["0", "false", "off", "no"].contains (lowercase s) then some false
  else none

/-- The truth value of a tree; of numbers, only zero is false. A refused text is reported in lower
case. -/
def truthOfTree (key : String) (tree : Tree) : Except Refusal Bool :=
  match tree with
  | .scalar _ (.bool b) => .ok b
  | .scalar _ (.int n) => .ok (n != 0)
  | .scalar _ (.float x) => .ok !x.isZero
  | .scalar origin? (.text s) =>
    match truthOfText? s with
    | some b => .ok b
    | none => .error (.notBoolean (.scalar (.text (lowercase s))) key origin?)
  | tree => .error (.notBoolean tree.found key tree.origin?)

def commentSection : Section := ⟨"CommentsConfig", 2⟩

def outputSection : Section := ⟨"OutputConfig", 1⟩

def needed (name : String) (value? : Option α) : Except Refusal α :=
  match value? with
  | some value => .ok value
  | none => .error (.missingEntry name)

def commentsOfTree : Tree → Except Refusal (CommentTail × Bool)
  | .table _ entries => do
    let tail? ← (entries.lookup "block_tail").mapM commentTails.ofTree
    let strict? ← (entries.lookup "strict_placement").mapM (truthOfTree "comments.strict_placement")
    return (← needed "block_tail" tail?, ← needed "strict_placement" strict?)
  | .list _ (tail :: strict :: _) => do
    return (← commentTails.ofTree tail, ← truthOfTree "comments[1]" strict)
  | .list _ [tail] => do
    discard (commentTails.ofTree tail)
    .error (.sectionTooShort 1 commentSection)
  | .list _ [] => .error (.sectionTooShort 0 commentSection)
  | .scalar _ value => .error (.notSection (.scalar value) commentSection)

def outputOfTree : Tree → Except Refusal OutputFormat
  | .table _ entries => do
    let format? ← (entries.lookup "format").mapM outputFormats.ofTree
    needed "format" format?
  | .list _ (format :: _) => outputFormats.ofTree format
  | .list _ [] => .error (.sectionTooShort 0 outputSection)
  | .scalar _ value => .error (.notSection (.scalar value) outputSection)

def ofTree (tree : Tree) : Except Refusal Settings := do
  let comments? ← (tree.get? "comments").mapM commentsOfTree
  let output? ← (tree.get? "output").mapM outputOfTree
  let (blockTail, strictPlacement) ← needed "comments" comments?
  let format ← needed "output" output?
  return { blockTail, strictPlacement, format }

def layer (settings : Settings) : List (String × Tree) :=
  [("comments", .table none [
      ("block_tail", .text (commentTails.nameOf settings.blockTail)),
      ("strict_placement", .bool settings.strictPlacement)]),
    ("output", .table none [("format", .text (outputFormats.nameOf settings.format))])]

end Settings

end Offside
