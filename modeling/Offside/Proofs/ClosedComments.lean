import Mathlib.Data.List.DropRight
import Offside.Proofs.Readings

/-! Block comments that are opened and closed on one line. Each of their characters leaves a blank in
its column, unless trimming takes the comment along with one that crosses a line end: then it leaves
nothing (`Carry.closed_comment_stays_iff`). -/

namespace Offside

/-- The text has blanks in so many columns from the first one on. -/
def BlankColumns (text : String) (first count : Nat) : Prop :=
  ∀ column, first ≤ column → column < first + count → text.toList[column]? = some ' '

/-- A block comment of the line that is opened and closed on it, with what is in front of it and
behind it. -/
structure Marking.Encloses (marking : Marking) (front comment back : List Segment) : Prop where
  split : marking.segments = front ++ (comment ++ back)
  closed : ∃ body, comment = .opener :: (body ++ [.closer]) ∧
    ∀ segment ∈ body, ∃ run, segment = .comment run

/-- What is in front of such segments goes with a comment that crosses a line end: the line starts
inside a comment and has no code at all, or it ends inside a comment and has nothing but comments
from there on. -/
def Reading.Abandons (carried : Bool) (reading : Reading) (back : List Segment) : Prop :=
  (carried = true ∧ reading.marking.hasCode = false) ∨
    (reading.after.mode.inBlockComment = true ∧ ∀ segment ∈ back, segment.isBlockComment = true)

namespace Segment

variable {front back segments : List Segment}

/-- Nothing is left of block comments at the end. -/
theorem dropTrailingComment_append_of_forall
    (comments : ∀ segment ∈ back, segment.isBlockComment = true) :
    dropTrailingComment (front ++ back) = dropTrailingComment front := by
  have reversed : ∀ segment ∈ back.reverse, segment.isBlockComment = true :=
    fun segment member => comments segment (List.mem_reverse.mp member)
  rw [dropTrailingComment, List.reverse_append, List.dropWhile_append_of_pos reversed,
    dropTrailingComment]

/-- What is in front of a segment that is no block comment stays. -/
theorem dropTrailingComment_append_of_exists
    (other : ∃ segment ∈ back, segment.isBlockComment = false) :
    dropTrailingComment (front ++ back) = front ++ dropTrailingComment back := by
  obtain ⟨segment, member, noComment⟩ := other
  have stays : (back.reverse.dropWhile isBlockComment).isEmpty = false := by
    cases rest : back.reverse.dropWhile isBlockComment with
    | cons => rfl
    | nil =>
      have comment := List.dropWhile_eq_nil_iff.mp rest segment (List.mem_reverse.mpr member)
      simp [noComment] at comment
  rw [dropTrailingComment, List.reverse_append, List.dropWhile_append, stays, dropTrailingComment]
  simp

/-- A block comment leaves a blank for each of its characters. -/
theorem shown_of_isBlockComment
    (comments : ∀ segment ∈ segments, segment.isBlockComment = true) :
    segments.flatMap shown = List.replicate (segments.flatMap source).length ' ' := by
  induction segments with
  | nil => rfl
  | cons segment segments ih =>
    obtain ⟨here, behind⟩ := List.forall_mem_cons.mp comments
    have own : segment.shown = List.replicate segment.source.length ' ' := by
      cases segment with
      | opener | closer => rfl
      | comment run => exact List.map_const'
      | _ => simp [isBlockComment] at here
    rw [List.flatMap_cons, List.flatMap_cons, List.length_append, List.replicate_add, own, ih behind]

/-- A segment that is no line comment leaves one character for each of its own. -/
def Fills (segment : Segment) : Prop :=
  segment.shown.length = segment.source.length

theorem fills_codeSegment (lexeme : Lexeme) : (Marking.codeSegment lexeme).Fills := by
  cases lexeme <;> rfl

theorem length_shown (fill : ∀ segment ∈ segments, segment.Fills) :
    (segments.flatMap shown).length = (segments.flatMap source).length := by
  induction segments with
  | nil => rfl
  | cons segment segments ih =>
    obtain ⟨here, behind⟩ := List.forall_mem_cons.mp fill
    rw [List.flatMap_cons, List.flatMap_cons, List.length_append, List.length_append, here,
      ih behind]

end Segment

namespace Marking

variable {marking : Marking} {front comment back : List Segment}

theorem fills_dropLast_cons {segment : Segment} (here : segment.Fills)
    (behind : ∀ other ∈ marking.segments.dropLast, other.Fills) :
    ∀ other ∈ (marking.cons segment).segments.dropLast, other.Fills := by
  cases rest : marking.segments with
  | nil => simp [cons, rest]
  | cons next segments =>
    rw [cons, rest, List.dropLast_cons_of_ne_nil (by simp), ← rest]
    exact List.forall_mem_cons.mpr ⟨here, behind⟩

/-- A line comment is the last segment of its line. -/
theorem fills_dropLast (number : Nat) (mode : Mode) (lexemes : List Lexeme) :
    ∀ segment ∈ (read number mode lexemes).segments.dropLast, segment.Fills := by
  fun_induction read number mode lexemes with
  | case1 | case2 | case12 => simp
  | case3 rest ih | case10 openedAt rest ih => exact fills_dropLast_cons rfl ih
  | case4 lexeme rest ih | case7 lexeme rest ih =>
    exact fills_dropLast_cons rfl (fills_dropLast_cons rfl ih)
  | case5 rest ih | case8 rest ih => exact fills_dropLast_cons rfl ih
  | case6 lexeme rest _ _ _ _ ih => exact fills_dropLast_cons (Segment.fills_codeSegment lexeme) ih
  | case9 lexeme rest _ _ ih => exact fills_dropLast_cons rfl ih
  | case11 openedAt lexeme rest _ ih =>
    exact fills_dropLast_cons (by simp [Segment.Fills, Segment.shown, Segment.source]) ih

namespace Encloses

variable (encloses : marking.Encloses front comment back)
include encloses

/-- All of the comment is a block comment. -/
theorem isBlockComment : ∀ segment ∈ comment, segment.isBlockComment = true := by
  obtain ⟨body, rfl, runs⟩ := encloses.closed
  intro segment member
  rcases List.mem_cons.mp member with rfl | member
  · rfl
  rcases List.mem_append.mp member with inside | last
  · obtain ⟨run, rfl⟩ := runs segment inside
    rfl
  · rw [List.mem_singleton.mp last]
    rfl

/-- What is in front of the comment keeps its columns. -/
theorem length_front (fill : ∀ segment ∈ marking.segments.dropLast, segment.Fills) :
    (front.flatMap Segment.shown).length = (front.flatMap Segment.source).length := by
  obtain ⟨body, rfl, -⟩ := encloses.closed
  refine Segment.length_shown fun segment member => fill segment ?_
  rw [encloses.split, List.dropLast_append_of_ne_nil (by simp)]
  exact List.mem_append_left _ member

/-- With no reason to go, the comment stays with what is in front of it. -/
theorem shown_of_stays {tail : CommentTail} {carried : Bool}
    (stays : tail = .trim → (carried = true → marking.hasCode = true) ∧
      (marking.mode.inBlockComment = true → ∃ segment ∈ back, segment.isBlockComment = false)) :
    ∃ rest, marking.shown tail carried =
      front.flatMap Segment.shown ++ (comment.flatMap Segment.shown ++ rest) := by
  have whole : marking.padded = front.flatMap Segment.shown ++
      (comment.flatMap Segment.shown ++ back.flatMap Segment.shown) := by
    rw [padded, encloses.split, List.flatMap_append, List.flatMap_append]
  cases tail with
  | pad => exact ⟨_, whole⟩
  | trim =>
    obtain ⟨code, other⟩ := stays rfl
    have kept : (carried && !marking.hasCode) = false := by
      cases carried with
      | false => rfl
      | true => simp [code rfl]
    simp only [shown, trimmed, kept, Bool.false_eq_true, ↓reduceIte]
    split
    · rename_i ends
      refine ⟨(Segment.dropTrailingComment back).flatMap Segment.shown, ?_⟩
      rw [encloses.split, ← List.append_assoc,
        Segment.dropTrailingComment_append_of_exists (other ends), List.append_assoc,
        List.flatMap_append, List.flatMap_append]
    · exact ⟨_, whole⟩

/-- With a reason to go, the comment leaves nothing, and what is in front of it no more than it
does anyway. -/
theorem length_shown_of_goes {carried : Bool}
    (goes : (carried = true ∧ marking.hasCode = false) ∨
      (marking.mode.inBlockComment = true ∧ ∀ segment ∈ back, segment.isBlockComment = true)) :
    (marking.shown .trim carried).length ≤ (front.flatMap Segment.shown).length := by
  simp only [shown, trimmed]
  rcases goes with ⟨carried, noCode⟩ | ⟨ends, comments⟩
  · simp [carried, noCode]
  split
  · exact Nat.zero_le _
  rw [encloses.split, Segment.dropTrailingComment_append_of_forall
    (List.forall_mem_append.mpr ⟨encloses.isBlockComment, comments⟩)]
  obtain ⟨dropped, split, -⟩ := Segment.split_dropTrailingComment front
  conv => rhs; rw [split, List.flatMap_append, List.length_append]
  exact Nat.le_add_right _ _

end Encloses

end Marking

theorem blankColumns_of_replicate {text : String} {front rest : List Char} {count : Nat}
    (split : text.toList = front ++ (List.replicate count ' ' ++ rest)) :
    BlankColumns text front.length count := by
  intro column above below
  rw [split, List.getElem?_append_right above, List.getElem?_append_left (by simp; omega)]
  simp only [List.getElem?_replicate]
  rw [if_pos (by omega)]

theorem not_blankColumns_of_length_le {text : String} {first count : Nat} (some : 0 < count)
    (short : text.toList.length ≤ first) : ¬BlankColumns text first count := by
  intro blank
  have inside := blank first (Nat.le_refl _) (by omega)
  rw [List.getElem?_eq_none short] at inside
  simp at inside

/-- A block comment that is opened and closed on one line leaves a blank in each of its columns when
it is padded. When comments are trimmed it does so just when it does not go with a comment that
crosses a line end; if it goes, nothing is left in its columns. -/
theorem Carry.closed_comment_stays_iff {carry : Carry} {tail : CommentTail} {line : String}
    {reading : Reading} {front comment back : List Segment}
    (read : carry.readLine tail number line = .ok reading)
    (encloses : reading.marking.Encloses front comment back) :
    let first := (front.flatMap Segment.source).length
    let count := (comment.flatMap Segment.source).length
    line.toList = front.flatMap Segment.source ++
      (comment.flatMap Segment.source ++ back.flatMap Segment.source) ∧
    (BlankColumns reading.stripped.text first count ↔
      ¬(tail = .trim ∧ reading.Abandons carry.mode.inBlockComment back)) ∧
    (tail = .trim → reading.Abandons carry.mode.inBlockComment back →
      reading.stripped.text.toList.length ≤ first) := by
  intro first count
  obtain ⟨marking, -, -, after, stripped⟩ := readLine_ok read
  have fill := Marking.fills_dropLast number carry.mode (Lexeme.ofLine line.toList)
  rw [← marking] at fill
  have columns : (front.flatMap Segment.shown).length = first := encloses.length_front fill
  have text : reading.stripped.text.toList =
      reading.marking.shown tail carry.mode.inBlockComment := by
    rw [stripped, String.toList_ofList]
  have ends : reading.after.mode.inBlockComment = reading.marking.mode.inBlockComment := by
    rw [after, Mode.inBlockComment_afterLine]
  have goes (trim : tail = .trim) (abandons : reading.Abandons carry.mode.inBlockComment back) :
      reading.stripped.text.toList.length ≤ first := by
    rw [text, trim, ← columns]
    unfold Reading.Abandons at abandons
    rw [ends] at abandons
    exact encloses.length_shown_of_goes abandons
  have some : 0 < count := by
    obtain ⟨body, same, -⟩ := encloses.closed
    simp only [count, same, List.flatMap_cons, List.length_append, Segment.source,
      List.length_cons]
    omega
  refine ⟨?_, ⟨?_, ?_⟩, goes⟩
  · have whole := Marking.source_read number carry.mode (Lexeme.ofLine line.toList)
    rw [Lexeme.chars_ofLine, ← marking, encloses.split, List.flatMap_append,
      List.flatMap_append] at whole
    exact whole.symm
  · rintro blank ⟨trim, abandons⟩
    exact not_blankColumns_of_length_le some (goes trim abandons) blank
  · intro keeps
    have stays (trim : tail = .trim) :
        (carry.mode.inBlockComment = true → reading.marking.hasCode = true) ∧
        (reading.marking.mode.inBlockComment = true →
          ∃ segment ∈ back, segment.isBlockComment = false) := by
      have free : ¬reading.Abandons carry.mode.inBlockComment back :=
        fun abandons => keeps ⟨trim, abandons⟩
      simp only [Reading.Abandons, ends, not_or, not_and, not_forall, Bool.not_eq_true,
        Bool.not_eq_false] at free
      refine ⟨free.1, fun inside => ?_⟩
      obtain ⟨segment, member, noComment⟩ := free.2 inside
      exact ⟨segment, member, noComment⟩
    obtain ⟨rest, shown⟩ := encloses.shown_of_stays stays
    rw [← text, Segment.shown_of_isBlockComment encloses.isBlockComment] at shown
    exact columns ▸ blankColumns_of_replicate shown

/-- Trimming takes a closed comment along: on the first line with the comment that is opened right
behind it, on the second with the comment that the line starts in. -/
theorem Carry.not_closed_comment_stays :
    (∃ reading front comment back,
      ({} : Carry).readLine .trim 1 "a /* b *//* c" = .ok reading ∧
      reading.marking.Encloses front comment back ∧ (front.flatMap Segment.source).length = 2 ∧
      (comment.flatMap Segment.source).length = 7 ∧ reading.stripped.text = "a " ∧
      ¬BlankColumns reading.stripped.text 2 7) ∧
    ∃ reading front comment back,
      ({ mode := .blockComment 1 } : Carry).readLine .trim 2 "c */ /* d */" = .ok reading ∧
      reading.marking.Encloses front comment back ∧ (front.flatMap Segment.source).length = 5 ∧
      (comment.flatMap Segment.source).length = 7 ∧ reading.stripped.text = "" ∧
      ¬BlankColumns reading.stripped.text 5 7 := by
  refine ⟨⟨_, [.code ['a'], .space [' ']],
      [.opener, .comment [' '], .comment ['b'], .comment [' '], .closer],
      [.opener, .comment [' '], .comment ['c']], rfl,
      ⟨rfl, [.comment [' '], .comment ['b'], .comment [' ']], rfl, by simp⟩, rfl, rfl, rfl, ?_⟩,
    ⟨_, [.comment ['c'], .comment [' '], .closer, .space [' ']],
      [.opener, .comment [' '], .comment ['d'], .comment [' '], .closer], [], rfl,
      ⟨rfl, [.comment [' '], .comment ['d'], .comment [' ']], rfl, by simp⟩, rfl, rfl, rfl, ?_⟩⟩
  · exact not_blankColumns_of_length_le (by decide) (by decide +kernel)
  · exact not_blankColumns_of_length_le (by decide) (by decide +kernel)

/-- A blank between the two comments makes the first one stay. -/
theorem Carry.closed_comment_stays_iff_apart :
    ∃ reading front comment back,
      ({} : Carry).readLine .trim 1 "a /* b */ /* c" = .ok reading ∧
      reading.marking.Encloses front comment back ∧
      let first := (front.flatMap Segment.source).length
      let count := (comment.flatMap Segment.source).length
      "a /* b */ /* c".toList = front.flatMap Segment.source ++
        (comment.flatMap Segment.source ++ back.flatMap Segment.source) ∧
      (BlankColumns reading.stripped.text first count ↔
        ¬(CommentTail.trim = .trim ∧ reading.Abandons false back)) ∧
      (CommentTail.trim = .trim → reading.Abandons false back →
        reading.stripped.text.toList.length ≤ first) ∧
      reading.stripped.text = "a         " := by
  obtain ⟨reading, read, same⟩ : ∃ reading,
      ({} : Carry).readLine .trim 1 "a /* b */ /* c" = .ok reading ∧
        reading.stripped.text = "a         " := ⟨_, rfl, rfl⟩
  have encloses : reading.marking.Encloses [.code ['a'], .space [' ']]
      [.opener, .comment [' '], .comment ['b'], .comment [' '], .closer]
      [.space [' '], .opener, .comment [' '], .comment ['c']] := by
    obtain ⟨marking, -⟩ := Carry.readLine_ok read
    exact ⟨marking ▸ rfl, [.comment [' '], .comment ['b'], .comment [' ']], rfl, by simp⟩
  obtain ⟨split, stays, goes⟩ := Carry.closed_comment_stays_iff read encloses
  exact ⟨reading, _, _, _, read, encloses, split, stays, goes, same⟩

end Offside
