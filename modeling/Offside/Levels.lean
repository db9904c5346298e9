import Offside.Fault

/-!
# Indentation levels

The widths that opened blocks, the innermost first. Every line whose indentation counts is
compared with them, which gives a `Shift`: how the line stands to the one before it.
-/

namespace Offside

/-- How a line of code stands to the line of code before it. -/
inductive Shift where
  /-- There is none before it. -/
  | baseline
  | same
  | indent
  | dedent (count : Nat)
deriving DecidableEq, Repr

/-- The open levels of a text. -/
structure Levels where
  /-- The widths of the open levels, the innermost first. -/
  widths : List Nat := []
  /-- A first line of code has been accepted. -/
  anchored : Bool := false
deriving DecidableEq, Repr

namespace Levels

/-- The width of the innermost level; outside of all levels it is zero. -/
def top (levels : Levels) : Nat :=
  levels.widths.headD 0

def depth (levels : Levels) : Nat :=
  levels.widths.length

def isEmpty (levels : Levels) : Bool :=
  levels.widths.isEmpty

def push (width : Nat) (levels : Levels) : Levels :=
  { levels with widths := width :: levels.widths }

def closeWider (width : Nat) (levels : Levels) : Levels :=
  { levels with widths := levels.widths.dropWhile (width < ·) }

def clear (levels : Levels) : Levels :=
  { levels with widths := [] }

/-- Compares the width of a line of code with the open levels. The first line has to start at
width zero. A line that closes levels has to land on the width of an open one; if it does not, the
levels it closed stay closed. -/
def observe (width : Nat) (levels : Levels) : Except Cause Shift × Levels :=
  if !levels.anchored then
    if width = 0 then (.ok .baseline, { levels with anchored := true })
    else (.error (.indentedBaseline width), levels)
  else if width = levels.top then (.ok .same, levels)
  else if levels.top < width then (.ok .indent, levels.push width)
  else
    let outer := levels.closeWider width
    if outer.top = width then (.ok (.dedent (levels.depth - outer.depth)), outer)
    else (.error (.unmatchedWidth width), outer)

end Levels

end Offside
