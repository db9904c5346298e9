import Offside.StrippedLine

/-! What a line keeps under the two choices for the tail of a comment. The longer text is the shorter
one with spaces and tabs behind it, and there are none unless the line starts or ends inside a block
comment (`Carry.strip_pad`); they change neither whether the line is empty nor how wide it is. -/

namespace Offside

/-- Nothing but spaces and tabs. -/
def IsPadding (chars : List Char) : Prop :=
  ∀ c ∈ chars, c = ' ' ∨ c = '\t'

theorem IsPadding.flatMap {f : Segment → List Char} {segments : List Segment}
    (each : ∀ segment ∈ segments, IsPadding (f segment)) : IsPadding (segments.flatMap f) := by
  intro c member
  obtain ⟨segment, among, part⟩ := List.mem_flatMap.mp member
  exact each segment among c part

theorem IsPadding.isBlank {chars : List Char} (padding : IsPadding chars) (member : c ∈ chars) :
    isBlank c = true := by
  rcases padding c member with rfl | rfl <;> decide

theorem IsPadding.cons {run : List Char} (blank : c = ' ' ∨ c = '\t') (rest : IsPadding run) :
    IsPadding (c :: run) :=
  List.forall_mem_cons.mpr ⟨blank, rest⟩

namespace Lexeme

theorem isPadding_of_mem_cons {lexemes : List Lexeme} {run : List Char}
    (spaces : ∀ run, space run ∈ lexemes → IsPadding run) (member : space run ∈ cons c lexemes) :
    IsPadding run := by
  revert member
  fun_cases cons c lexemes with
  | case7 _ _ _ _ _ _ blank first rest =>
    intro member
    rcases List.mem_cons.mp member with same | behind
    · cases same
      exact .cons blank (spaces first List.mem_cons_self)
    · exact spaces run (List.mem_cons_of_mem _ behind)
  | case8 _ _ _ _ _ _ blank =>
    intro member
    rcases List.mem_cons.mp member with same | behind
    · cases same
      exact .cons blank (by simp [IsPadding])
    · exact spaces run behind
  | _ =>
    intro member
    exact spaces run (by simpa using member)

theorem isPadding_of_mem_ofLine {line run : List Char} (member : space run ∈ ofLine line) :
    IsPadding run := by
  induction line generalizing run with
  | nil => simp [ofLine] at member
  | cons c line ih => exact isPadding_of_mem_cons (fun run among => ih among) member

end Lexeme

theorem Segment.isCode_of_isBlockComment {segment : Segment}
    (comment : segment.isBlockComment = true) : segment.isCode = false := by
  cases segment with
  | opener | comment | closer => rfl
  | _ => simp [isBlockComment] at comment

namespace Marking

theorem codeSegment_eq_space {lexeme : Lexeme} (same : codeSegment lexeme = .space run) :
    lexeme = .space run := by
  cases lexeme <;> simp_all [codeSegment]

/-- The blanks of a line are its blanks in code. -/
theorem mem_of_space_mem_read {number : Nat} {mode : Mode} {lexemes : List Lexeme}
    (member : .space run ∈ (read number mode lexemes).segments) : .space run ∈ lexemes := by
  fun_induction read number mode lexemes with
  | case6 lexeme rest _ _ _ _ ih =>
    rcases List.mem_cons.mp member with same | behind
    · exact List.mem_cons.mpr (.inl (codeSegment_eq_space same.symm).symm)
    · exact List.mem_cons_of_mem _ (ih behind)
  | _ => simp_all [cons]

theorem isPadding_shown {segment : Segment}
    (spaces : ∀ run, segment = .space run → IsPadding run) (noCode : segment.isCode = false) :
    IsPadding segment.shown := by
  cases segment with
  | code | openBrace | closeBrace => simp [Segment.isCode] at noCode
  | space run => exact spaces run rfl
  | lineComment | opener | comment | closer => simp [IsPadding, Segment.shown]

/-- What is kept of the tail is what is shown of it, behind what is shown without it. -/
theorem padded_eq (carried : Bool) (marking : Marking)
    (spaces : ∀ run, .space run ∈ marking.segments → IsPadding run) :
    ∃ blanks, IsPadding blanks ∧ marking.padded = marking.trimmed carried ++ blanks ∧
      (carried = true ∨ marking.mode.inBlockComment = true ∨ blanks = []) := by
  have padding (segment : Segment) (member : segment ∈ marking.segments)
      (noCode : segment.isCode = false) : IsPadding segment.shown :=
    isPadding_shown (fun run same => spaces run (same ▸ member)) noCode
  unfold trimmed
  split
  · rename_i dropped
    simp only [Bool.and_eq_true, Bool.not_eq_true'] at dropped
    have noCode := List.any_eq_false.mp dropped.2
    refine ⟨marking.padded, ?_, rfl, .inl dropped.1⟩
    refine .flatMap fun segment member => padding segment member ?_
    simpa using noCode segment member
  split
  · rename_i inside
    obtain ⟨back, split, comment⟩ := Segment.split_dropTrailingComment marking.segments
    refine ⟨back.flatMap Segment.shown, ?_, ?_, .inr (.inl inside)⟩
    · refine .flatMap fun segment member => padding segment ?_ ?_
      · rw [split]
        exact List.mem_append_right _ member
      · exact Segment.isCode_of_isBlockComment (comment segment member)
    · rw [← List.flatMap_append, ← split, padded]
  · exact ⟨[], by simp [IsPadding], (List.append_nil _).symm, .inr (.inr rfl)⟩

end Marking

namespace StrippedLine

/-- The line with more text at its end. -/
def append (blanks : String) (line : StrippedLine) : StrippedLine :=
  { line with text := line.text ++ blanks }

variable {line : StrippedLine} {blanks : String}

theorem isEmpty_append (padding : IsPadding blanks.toList) :
    (line.append blanks).isEmpty = line.isEmpty := by
  have blank : blanks.toList.all isBlank = true :=
    List.all_eq_true.mpr fun c member => padding.isBlank member
  simp [isEmpty, append, blank]

/-- Behind code no more text counts for the width. -/
theorem width_append (filled : line.isEmpty = false) (blanks : String) :
    (line.append blanks).width = line.width := by
  have stops : (line.text.toList.takeWhile isBlank).length ≠ line.text.toList.length := by
    intro all
    have same := (List.takeWhile_prefix isBlank).eq_of_length all
    rw [isEmpty, ← same, List.all_takeWhile] at filled
    simp at filled
  rw [width, append, String.toList_append, List.takeWhile_append, if_neg stops, width]

end StrippedLine

/-- A line is read alike under both choices, but for the padding at the end of its text. -/
theorem Carry.strip_pad (number : Nat) (line : String) (carry : Carry) :
    ∃ blanks : String, IsPadding blanks.toList ∧
      carry.strip .pad number line =
        ((carry.strip .trim number line).1.map (StrippedLine.append blanks),
          (carry.strip .trim number line).2) ∧
      (carry.mode.inBlockComment = true ∨
        (carry.strip .trim number line).2.mode.inBlockComment = true ∨ blanks = "") := by
  unfold strip
  dsimp only
  split
  · exact ⟨"", by simp [IsPadding], rfl, .inr (.inr rfl)⟩
  · split
    · exact ⟨"", by simp [IsPadding], rfl, .inr (.inr rfl)⟩
    · have spaces (run : List Char)
          (member : .space run ∈
            (Marking.read number carry.mode (Lexeme.ofLine line.toList)).segments) : IsPadding run :=
        Lexeme.isPadding_of_mem_ofLine (Marking.mem_of_space_mem_read member)
      obtain ⟨blanks, padding, same, inside⟩ :=
        Marking.padded_eq carry.mode.inBlockComment _ spaces
      refine ⟨String.ofList blanks, by simpa using padding, ?_, ?_⟩
      · simp [Except.map, StrippedLine.append, Marking.shown, same]
      · rcases inside with before | behind | none
        · exact .inl before
        · exact .inr (.inl (by rw [Mode.inBlockComment_afterLine, behind]))
        · exact .inr (.inr (by rw [none]))

end Offside
