import Mathlib.Data.List.Forall2
import Offside.Proofs.LineShape

/-! Ends of lines. A text that puts either end behind each of its lines is cut into these lines
again (`splitLines_joinEnding`), and so a run over it is the run over the lines. What the lines of
any text leave out of it are its line feeds, and one carriage return of each piece between them that
ends in one (`lineEnds_do_not_matter`). -/

namespace Offside

/-- What can stand between two lines. -/
inductive LineEnd where
  | feed
  | returnFeed
deriving DecidableEq, Repr

def LineEnd.text : LineEnd → String
  | feed => "\n"
  | returnFeed => "\r\n"

/-- Lines joined by ends of their own: `ends` says what stands behind each line, counted from zero.
The last line has nothing behind it. -/
def joinEnding (ends : Nat → LineEnd) : List String → String
  | [] => ""
  | [line] => line
  | line :: lines => line ++ (ends 0).text ++ joinEnding (fun i => ends (i + 1)) lines

/-- A line of a text has no line feed, and no carriage return at its end, where it would belong to
the end of the line. -/
structure IsLine (line : String) : Prop where
  noFeed : '\n' ∉ line.toList
  noReturn : line.toList.getLast? ≠ some '\r'

/-- A piece between line feeds is the line, or the line and one carriage return. -/
def Encloses (segment line : String) : Prop :=
  if segment.toList.getLast? = some '\r' then segment = line ++ "\r" else segment = line

/-- The characters without the carriage returns that stand in front of a line feed or at the end. -/
def withoutReturns : List Char → List Char
  | [] => []
  | c :: rest =>
    if c = '\r' ∧ ∀ d ∈ rest.head?, d = '\n' then withoutReturns rest
    else c :: withoutReturns rest

section Returns

theorem dropCarriageReturn_of_ne {piece : List Char} (noReturn : piece.getLast? ≠ some '\r') :
    dropCarriageReturn piece = piece :=
  if_neg noReturn

@[simp] theorem dropCarriageReturn_concat (piece : List Char) :
    dropCarriageReturn (piece ++ ['\r']) = piece := by
  simp [dropCarriageReturn]

/-- A character in front of a piece stays, unless it is a carriage return and all of the piece. -/
theorem dropCarriageReturn_cons {c : Char} {piece : List Char} (stays : c = '\r' → piece ≠ []) :
    dropCarriageReturn (c :: piece) = c :: dropCarriageReturn piece := by
  cases piece with
  | nil =>
    have other : c ≠ '\r' := fun same => stays same rfl
    simp [dropCarriageReturn, other]
  | cons d piece =>
    unfold dropCarriageReturn
    rw [List.getLast?_cons_cons]
    split <;> simp

theorem encloses_dropCarriageReturn (piece : List Char) :
    Encloses (String.ofList piece) (String.ofList (dropCarriageReturn piece)) := by
  unfold Encloses
  rw [String.toList_ofList]
  split
  · rename_i ends
    obtain ⟨front, rfl⟩ := List.getLast?_eq_some_iff.mp ends
    rw [dropCarriageReturn_concat, String.ofList_append]
  · rename_i noReturn
    rw [dropCarriageReturn_of_ne noReturn]

/-- The first piece is empty where the text starts with a line feed or ends at once. -/
theorem head_splitOn_eq_nil_iff {chars piece : List Char} {pieces : List (List Char)}
    (split : chars.splitOn '\n' = piece :: pieces) :
    piece = [] ↔ ∀ d ∈ chars.head?, d = '\n' := by
  cases chars with
  | nil =>
    obtain ⟨rfl, -⟩ : [] = piece ∧ [] = pieces := by simpa using split
    simp
  | cons c chars =>
    rw [List.splitOn, List.splitOnP_cons_eq_if_modifyHead, ← List.splitOn] at split
    by_cases feed : c = '\n'
    · obtain ⟨rfl, -⟩ : [] = piece ∧ chars.splitOn '\n' = pieces := by simpa [feed] using split
      simp [feed]
    · cases behind : chars.splitOn '\n' with
      | nil => exact absurd behind (List.splitOn_ne_nil _ _)
      | cons first others =>
        obtain ⟨rfl, -⟩ : c :: first = piece ∧ others = pieces := by
          simpa [feed, behind] using split
        simp [feed]

/-- Joining the pieces between line feeds, each without a carriage return at its end, leaves those
carriage returns out of the text. -/
theorem intercalate_dropCarriageReturn (chars : List Char) :
    ['\n'].intercalate ((chars.splitOn '\n').map dropCarriageReturn) = withoutReturns chars := by
  induction chars with
  | nil => rfl
  | cons c chars ih =>
    rw [List.splitOn, List.splitOnP_cons_eq_if_modifyHead, ← List.splitOn]
    cases split : chars.splitOn '\n' with
    | nil => exact absurd split (List.splitOn_ne_nil _ _)
    | cons piece pieces =>
      have ends := head_splitOn_eq_nil_iff split
      rw [split] at ih
      by_cases feed : c = '\n'
      · have stays : withoutReturns (c :: chars) = c :: withoutReturns chars :=
          if_neg fun both => by simp [feed] at both
        rw [stays, ← ih]
        simp [feed, dropCarriageReturn, List.intercalate]
      · have joined : (c == '\n') = false := by simpa using feed
        simp only [joined, Bool.false_eq_true, ↓reduceIte, List.modifyHead_cons, List.map_cons]
        by_cases gone : c = '\r' ∧ piece = []
        · have dropped : withoutReturns (c :: chars) = withoutReturns chars :=
            if_pos ⟨gone.1, ends.mp gone.2⟩
          rw [dropped, ← ih, gone.1, gone.2]
          rfl
        · have stays : withoutReturns (c :: chars) = c :: withoutReturns chars :=
            if_neg fun both => gone ⟨both.1, ends.mpr both.2⟩
          rw [stays, ← ih, dropCarriageReturn_cons fun same none => gone ⟨same, none⟩]
          cases pieces <;> simp [List.intercalate]

theorem toList_joinLines_splitLines (text : String) :
    (joinLines (splitLines text)).toList = withoutReturns text.toList := by
  rw [← intercalate_dropCarriageReturn, splitLines_eq, joinLines, String.toList_intercalate,
    List.map_map]
  simp [Function.comp_def]

end Returns

section Joining

variable {line : String} {lines : List String}

theorem joinEnding_cons (ends : Nat → LineEnd) (line : String) (some : lines ≠ []) :
    joinEnding ends (line :: lines) =
      line ++ (ends 0).text ++ joinEnding (fun i => ends (i + 1)) lines := by
  cases lines with
  | nil => exact absurd rfl some
  | cons next lines => rfl

/-- A line with an end behind it is the first line of a text. -/
theorem splitLines_append (isLine : IsLine line) (lineEnd : LineEnd) (rest : String) :
    splitLines (line ++ lineEnd.text ++ rest) = line :: splitLines rest := by
  have cut (piece : List Char) (noFeed : '\n' ∉ piece) :
      (piece ++ '\n' :: rest.toList).splitOn '\n' = piece :: rest.toList.splitOn '\n' := by
    have whole : piece.splitOnP (· == '\n') = [piece] :=
      List.splitOnP_eq_singleton fun c member => by
        simpa using fun feed : c = '\n' => noFeed (feed ▸ member)
    rw [List.splitOn, List.splitOnP_append_cons _ _ (by simp), whole]
    rfl
  rw [splitLines_eq, splitLines_eq, String.toList_append, String.toList_append]
  cases lineEnd with
  | feed =>
    have pieces := cut line.toList isLine.noFeed
    have split : line.toList ++ LineEnd.feed.text.toList ++ rest.toList =
        line.toList ++ '\n' :: rest.toList := by simp [LineEnd.text]
    rw [split, pieces, List.map_cons, dropCarriageReturn_of_ne isLine.noReturn,
      String.ofList_toList]
  | returnFeed =>
    have pieces := cut (line.toList ++ ['\r']) (by simp [isLine.noFeed])
    have split : line.toList ++ LineEnd.returnFeed.text.toList ++ rest.toList =
        line.toList ++ ['\r'] ++ '\n' :: rest.toList := by simp [LineEnd.text]
    rw [split, pieces, List.map_cons, dropCarriageReturn_concat, String.ofList_toList]

/-- A line by itself is a text of one line. -/
theorem splitLines_of_isLine (isLine : IsLine line) : splitLines line = [line] := by
  have whole : line.toList.splitOn '\n' = [line.toList] :=
    List.splitOnP_eq_singleton fun c member => by
      simpa using fun feed : c = '\n' => isLine.noFeed (feed ▸ member)
  rw [splitLines_eq, whole, List.map_singleton, dropCarriageReturn_of_ne isLine.noReturn,
    String.ofList_toList]

/-- The lines that were joined are found again, whatever ends were put behind them. -/
theorem splitLines_joinEnding (ends : Nat → LineEnd) (some : lines ≠ [])
    (isLine : ∀ line ∈ lines, IsLine line) : splitLines (joinEnding ends lines) = lines := by
  induction lines generalizing ends with
  | nil => exact absurd rfl some
  | cons line lines ih =>
    obtain ⟨here, behind⟩ := List.forall_mem_cons.mp isLine
    cases lines with
    | nil => exact splitLines_of_isLine here
    | cons next lines =>
      rw [joinEnding_cons _ _ (by simp), splitLines_append here, ih _ (by simp) behind]

/-- An end behind the last line is what an empty line behind it makes of the text. -/
theorem joinEnding_append_text (ends : Nat → LineEnd) (some : lines ≠ []) (last : LineEnd) :
    ∃ endsToo, joinEnding ends lines ++ last.text = joinEnding endsToo (lines ++ [""]) := by
  induction lines generalizing ends with
  | nil => exact absurd rfl some
  | cons line lines ih =>
    cases lines with
    | nil => exact ⟨fun _ => last, by simp [joinEnding]⟩
    | cons next lines =>
      obtain ⟨endsToo, same⟩ := ih (fun i => ends (i + 1)) (by simp)
      refine ⟨fun i => if i = 0 then ends 0 else endsToo (i - 1), ?_⟩
      rw [joinEnding_cons ends line (List.cons_ne_nil next lines), String.append_assoc, same]
      rfl

theorem isLine_empty : IsLine "" :=
  ⟨by simp, by simp⟩

end Joining

/-- Whatever ends stand behind the lines of a text, they are found again, and a run over the text is
the run over the lines; an end behind the last line has an empty line behind it. Of any text the
lines have no line feed in them, there is one more of them than line feeds, and joined by line feeds
they are the text without the carriage returns at the ends of its segments, of which each loses at
most one. -/
theorem lineEnds_do_not_matter :
    (∀ (ends : Nat → LineEnd) (lines : List String), lines ≠ [] → (∀ line ∈ lines, IsLine line) →
      splitLines (joinEnding ends lines) = lines ∧
      (∀ last : LineEnd, splitLines (joinEnding ends lines ++ last.text) = lines ++ [""]) ∧
      ∀ options, processText options (joinEnding ends lines) = processLines options lines) ∧
    ∀ text,
      (∀ line ∈ splitLines text, '\n' ∉ line.toList) ∧
      (splitLines text).length = text.toList.count '\n' + 1 ∧
      (joinLines (splitLines text)).toList = withoutReturns text.toList ∧
      ∃ segments, text = joinLines segments ∧ (∀ segment ∈ segments, '\n' ∉ segment.toList) ∧
        List.Forall₂ Encloses segments (splitLines text) := by
  constructor
  · intro ends lines some isLine
    have split := splitLines_joinEnding ends some isLine
    refine ⟨split, ?_, fun options => by rw [processText, split]⟩
    intro last
    obtain ⟨endsToo, same⟩ := joinEnding_append_text ends some last
    rw [same]
    refine splitLines_joinEnding endsToo (by simp) fun line member => ?_
    rcases List.mem_append.mp member with among | final
    · exact isLine line among
    · exact List.mem_singleton.mp final ▸ isLine_empty
  · intro text
    refine ⟨?_, length_splitLines text, toList_joinLines_splitLines text,
      (text.toList.splitOn '\n').map String.ofList, ?_, ?_, ?_⟩
    · intro line member feed
      exact within_splitLines text line member _ feed rfl
    · rw [← String.toList_inj, joinLines, String.toList_intercalate, List.map_map]
      simp [Function.comp_def, List.intercalate_splitOn]
    · intro segment member
      obtain ⟨piece, among, rfl⟩ := List.mem_map.mp member
      rw [String.toList_ofList]
      exact not_mem_splitOn _ piece among
    · rw [splitLines_eq, List.forall₂_map_left_iff, List.forall₂_map_right_iff, List.forall₂_same]
      exact fun piece _ => encloses_dropCarriageReturn piece

/-- Two carriage returns before a line feed, one inside of a line, an empty line and both kinds of
ends. -/
theorem lineEnds_do_not_matter_mixed :
    let ends : Nat → LineEnd := fun i => if i = 1 then .feed else .returnFeed
    let lines := ["a\rb", "", "  c", "d\r\r e"]
    lines ≠ [] ∧ (∀ line ∈ lines, IsLine line) ∧
      joinEnding ends lines = "a\rb\r\n\n  c\r\nd\r\r e" ∧
      splitLines (joinEnding ends lines) = lines ∧
      processText {} (joinEnding ends lines) = processLines {} lines := by
  intro ends lines
  have isLine : ∀ line ∈ lines, IsLine line := by
    have each : ∀ line ∈ lines, '\n' ∉ line.toList ∧ line.toList.getLast? ≠ some '\r' := by
      decide +kernel
    exact fun line member => ⟨(each line member).1, (each line member).2⟩
  obtain ⟨split, _, run⟩ := lineEnds_do_not_matter.1 ends lines (by simp [lines]) isLine
  exact ⟨by simp [lines], isLine, by decide +kernel, split, run {}⟩

end Offside
