import Offside.Nesting
import Offside.Lexeme

/-!
# Segments

A line read from left to right falls into segments of code, blanks and comment. The text that
remains of the line, its brackets and the places of its comments are all read off the segments.
-/

namespace Offside

/-- A stretch of a line, by what it counts as. -/
inductive Segment where
  /-- Code other than a bracket: plain text, an escape, or a piece of a string. -/
  | code (run : List Char)
  | openBrace
  | closeBrace
  | space (run : List Char)
  /-- A line comment, which is the rest of its line. -/
  | lineComment (run : List Char)
  | opener
  | comment (run : List Char)
  | closer
deriving DecidableEq, Repr

namespace Segment

def source : Segment → List Char
  | code run => run
  | openBrace => ['{']
  | closeBrace => ['}']
  | space run => run
  | lineComment run => run
  | opener => ['/', '*']
  | comment run => run
  | closer => ['*', '/']

/-- What remains of a segment. A line comment leaves nothing, and each character of a block
comment leaves one space, so that the code behind it keeps its column. -/
def shown : Segment → List Char
  | code run => run
  | openBrace => ['{']
  | closeBrace => ['}']
  | space run => run
  | lineComment _ => []
  | opener => [' ', ' ']
  | comment run => run.map fun _ => ' '
  | closer => [' ', ' ']

def isCode : Segment → Bool
  | code _ | openBrace | closeBrace => true
  | _ => false

def opensComment : Segment → Bool
  | lineComment _ | opener => true
  | _ => false

def isBlockComment : Segment → Bool
  | opener | comment _ | closer => true
  | _ => false

/-- Counts the brackets of the segments, from left to right. -/
def follow (nesting : Nesting) : List Segment → Except Cause Nesting
  | [] => .ok nesting
  | openBrace :: rest => follow nesting.push rest
  | closeBrace :: rest =>
    match nesting.pop with
    | .ok nesting => follow nesting rest
    | .error cause => .error cause
  | _ :: rest => follow nesting rest

/-- The segments up to the last one that is no part of a block comment. -/
def dropTrailingComment (segments : List Segment) : List Segment :=
  (segments.reverse.dropWhile isBlockComment).reverse

/-- Only parts of block comments are dropped at the end. -/
theorem split_dropTrailingComment (segments : List Segment) :
    ∃ back, segments = dropTrailingComment segments ++ back ∧
      ∀ segment ∈ back, segment.isBlockComment = true := by
  refine ⟨(segments.reverse.takeWhile isBlockComment).reverse, ?_, ?_⟩
  · rw [dropTrailingComment, ← List.reverse_append, List.takeWhile_append_dropWhile,
      List.reverse_reverse]
  · intro segment member
    exact List.all_eq_true.mp List.all_takeWhile segment (List.mem_reverse.mp member)

/-- Whether the first segment that is code or starts a comment starts a comment. -/
def ledByComment (segments : List Segment) : Bool :=
  match segments.find? fun segment => segment.isCode || segment.opensComment with
  | some segment => segment.opensComment
  | none => false

end Segment

end Offside
