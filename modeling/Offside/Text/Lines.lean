/-!
# Lines of a text

A text is cut at every line feed, and a carriage return just before the cut belongs to the line
end. The piece after the last line feed is a line too, even when it is empty.
-/

namespace Offside

/-- The pieces between line feeds, the first of them apart: every text has at least one. -/
def cutAtLineFeeds (chars : List Char) : List Char × List (List Char) :=
  chars.foldr (fun c (line, lines) => if c = '\n' then ([], line :: lines) else (c :: line, lines))
    ([], [])

def dropCarriageReturn (line : List Char) : List Char :=
  if line.getLast? = some '\r' then line.dropLast else line

def splitLines (text : String) : List String :=
  let (first, rest) := cutAtLineFeeds text.toList
  (first :: rest).map fun line => String.ofList (dropCarriageReturn line)

/-- Lines joined by line feeds, with none after the last. -/
def joinLines (lines : List String) : String :=
  "\n".intercalate lines

end Offside
