import Offside.Marking
import Offside.Text.Blank

/-!
# Lines without their comments

`Carry.strip` takes the comments out of a line and counts its brackets. A block comment may go on
over line ends, and what it leaves at the end of a line can be dropped or kept; a string may not.
-/

namespace Offside

/-- What becomes of the spaces that a block comment leaves at the end of a line, when the comment
crosses a line end. -/
inductive CommentTail where
  | trim
  | pad
deriving DecidableEq, Repr

/-- What goes over from one line to the next. -/
structure Carry where
  mode : Mode := .code
  nesting : Nesting := {}
deriving DecidableEq, Repr

/-- A line without its comments. -/
structure StrippedLine where
  number : Nat
  text : String
  /-- The explicit brackets open before the line. -/
  depthAtStart : Nat
  ledByComment : Bool
  /-- Code stands behind a block comment that goes back to an earlier line. -/
  codeAfterCarriedComment : Bool
deriving DecidableEq, Repr

namespace StrippedLine

def width (line : StrippedLine) : Nat :=
  (line.text.toList.takeWhile isBlank).length

def isEmpty (line : StrippedLine) : Bool :=
  line.text.toList.all isBlank

end StrippedLine

namespace Marking

def hasCode (marking : Marking) : Bool :=
  marking.segments.any Segment.isCode

def padded (marking : Marking) : List Char :=
  marking.segments.flatMap Segment.shown

/-- What remains of a line without the spaces at its end that belong to a comment which crosses a
line end. A line that starts in a comment and has no code belongs to that comment as a whole. -/
def trimmed (carried : Bool) (marking : Marking) : List Char :=
  if carried && !marking.hasCode then []
  else if marking.mode.inBlockComment then
    (Segment.dropTrailingComment marking.segments).flatMap Segment.shown
  else marking.padded

/-- What remains of a line; `carried` says that it starts in a block comment. -/
def shown (tail : CommentTail) (carried : Bool) (marking : Marking) : List Char :=
  match tail with
  | .trim => marking.trimmed carried
  | .pad => marking.padded

end Marking

namespace Carry

/-- Takes the comments out of a line and counts its brackets. A bracket that closes nothing ends
the reading at once, in code and with no bracket open; a string that is left open stays open for
the line after. -/
def strip (tail : CommentTail) (number : Nat) (line : String) (carry : Carry) :
    Except Fault StrippedLine × Carry :=
  let carried := carry.mode.inBlockComment
  let marking := Marking.read number carry.mode (Lexeme.ofLine line.toList)
  match Segment.follow carry.nesting marking.segments with
  | .error cause => (.error ⟨number, cause⟩, { mode := .code, nesting := {} })
  | .ok nesting =>
    match marking.mode with
    | .string => (.error ⟨number, .unterminatedString⟩, { mode := .string, nesting })
    | mode =>
      (.ok
        { number
          text := String.ofList (marking.shown tail carried)
          depthAtStart := carry.nesting.depth
          ledByComment := Segment.ledByComment marking.segments
          codeAfterCarriedComment := carried && marking.hasCode },
       { mode := mode.afterLine, nesting })

end Carry

end Offside
