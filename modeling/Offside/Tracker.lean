import Offside.Levels
import Offside.StrippedLine

/-!
# The role of each line

`Tracker` carries all that one line leaves for the next: mode, brackets and levels. A step reads a
line and answers its role: empty, inside explicit brackets, or code whose indentation counts.
-/

namespace Offside

/-- What can be chosen about a run. -/
structure Options where
  /-- What becomes of the spaces a block comment leaves at the end of a line. -/
  tail : CommentTail := .trim
  /-- Reject comments before the code of a line whose indentation counts, and code behind a
  comment that was carried into such a line. -/
  strict : Bool := true
deriving DecidableEq, Repr

/-- The role of a line, with what remains of it. -/
inductive Event where
  | blank (text : String)
  | nested (text : String)
  | content (text : String) (shift : Shift)
deriving DecidableEq, Repr

def Event.text : Event → String
  | blank text | nested text | content text _ => text

/-- What is wrong with the places of comments in a line whose indentation counts. -/
def StrippedLine.misplacedComment? (line : StrippedLine) : Option Cause :=
  if line.ledByComment then some .leadingComment
  else if line.codeAfterCarriedComment then some .codeAfterCarriedComment
  else none

/-- What a run knows between two lines. -/
structure Tracker where
  carry : Carry := {}
  levels : Levels := {}
  /-- The number of the last line; zero before the first. -/
  lastLine : Nat := 0
deriving DecidableEq, Repr

namespace Tracker

/-- The role of a line that was stripped of its comments. -/
def classify (options : Options) (line : StrippedLine) (tracker : Tracker) :
    Except Fault Event × Tracker :=
  if line.isEmpty then (.ok (.blank line.text), tracker)
  else if 0 < line.depthAtStart then (.ok (.nested line.text), tracker)
  else
    match if options.strict then line.misplacedComment? else none with
    | some cause => (.error ⟨line.number, cause⟩, tracker)
    | none =>
      match tracker.levels.observe line.width with
      | (.ok shift, levels) => (.ok (.content line.text shift), { tracker with levels })
      | (.error cause, levels) => (.error ⟨line.number, cause⟩, { tracker with levels })

def step (options : Options) (number : Nat) (line : String) (tracker : Tracker) :
    Except Fault Event × Tracker :=
  match tracker.carry.strip options.tail number line with
  | (.ok stripped, carry) =>
    classify options stripped { tracker with carry, lastLine := number }
  | (.error fault, carry) => (.error fault, { tracker with carry, lastLine := number })

/-- Ends the text: answers how many levels were left open, and closes them. A block comment must
not be left open. -/
def finish (tracker : Tracker) : Except Fault Nat × Tracker :=
  match tracker.carry.mode with
  | .blockComment openedAt => (.error ⟨tracker.lastLine, .unterminatedComment openedAt⟩, tracker)
  | _ => (.ok tracker.levels.depth, { tracker with levels := tracker.levels.clear })

end Tracker

end Offside
