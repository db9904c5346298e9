import Offside.Proofs.Trace

/-! The faults that stop a run. A rejected line is named by its fault, and what is wrong with it is
never that a comment was left open (`step_error`); that is noticed at the end of the text alone
(`finish_error`). -/

namespace Offside

theorem Segment.follow_error {segments : List Segment} {nesting : Nesting} {cause : Cause}
    (failed : follow nesting segments = .error cause) : cause = .unmatchedClose := by
  induction segments generalizing nesting with
  | nil => simp [follow] at failed
  | cons segment rest ih =>
    cases segment with
    | closeBrace =>
      obtain ⟨depth⟩ := nesting
      cases depth with
      | zero => simpa [follow, Nesting.pop] using failed.symm
      | succ depth => exact ih failed
    | _ => exact ih failed

/-- Nothing but the width of a line is wrong for the levels. -/
theorem Levels.observe_error {levels next : Levels} {cause : Cause}
    (failed : levels.observe width = (.error cause, next)) :
    cause = .indentedBaseline width ∨ cause = .unmatchedWidth width := by
  unfold observe at failed
  split at failed
  · split at failed
    · simp at failed
    · exact .inl (by simpa using (congrArg Prod.fst failed).symm)
  split at failed
  · simp at failed
  split at failed
  · simp at failed
  dsimp only at failed
  split at failed
  · simp at failed
  · exact .inr (by simpa using (congrArg Prod.fst failed).symm)

/-- Whether the rule about the places of comments, and no other, is broken. -/
def Cause.isMisplacement : Cause → Bool
  | leadingComment | codeAfterCarriedComment => true
  | _ => false

theorem Cause.kind_of_isMisplacement {cause : Cause} (misplaced : cause.isMisplacement = true) :
    cause.kind = .malformed := by
  cases cause <;> simp_all [isMisplacement, kind]

theorem StrippedLine.isMisplacement_misplacedComment? {line : StrippedLine} {cause : Cause}
    (misplaced : line.misplacedComment? = some cause) : cause.isMisplacement = true := by
  unfold misplacedComment? at misplaced
  split at misplaced
  · cases misplaced
    rfl
  · split at misplaced
    · cases misplaced
      rfl
    · simp at misplaced

/-- A line that cannot be read leaves nothing open, or a string. -/
theorem Carry.strip_failed {tail : CommentTail} {carry after : Carry} {fault : Fault}
    (failed : carry.strip tail number line = (.error fault, after)) :
    fault = ⟨number, .unmatchedClose⟩ ∧ after = {} ∨
      fault = ⟨number, .unterminatedString⟩ ∧ after.mode = .string := by
  unfold strip at failed
  dsimp only at failed
  split at failed
  · rename_i cause followed
    cases failed
    exact .inl ⟨by rw [Segment.follow_error followed], rfl⟩
  · split at failed
    · cases failed
      exact .inr ⟨rfl, rfl⟩
    · simp at failed

/-- A line that cannot be read has a bracket or a string to blame. -/
theorem Carry.strip_error {tail : CommentTail} {carry after : Carry} {fault : Fault}
    (failed : carry.strip tail number line = (.error fault, after)) :
    fault.line = number ∧ (fault.cause = .unmatchedClose ∨ fault.cause = .unterminatedString) := by
  rcases strip_failed failed with ⟨rfl, -⟩ | ⟨rfl, -⟩
  · exact ⟨rfl, .inl rfl⟩
  · exact ⟨rfl, .inr rfl⟩

theorem Carry.number_strip {tail : CommentTail} {carry after : Carry} {stripped : StrippedLine}
    (passed : carry.strip tail number line = (.ok stripped, after)) : stripped.number = number := by
  unfold strip at passed
  dsimp only at passed
  split at passed
  · simp at passed
  · split at passed
    · simp at passed
    · cases passed
      rfl

namespace Tracker

variable {options : Options} {tracker next : Tracker} {fault : Fault}

/-- A line that can be read is rejected for the place of a comment, and then the levels are left
alone, or by the levels. -/
theorem classify_failed {line : StrippedLine}
    (failed : classify options line tracker = (.error fault, next)) :
    (∃ cause, line.misplacedComment? = some cause ∧ fault = ⟨line.number, cause⟩ ∧
        next = tracker) ∨
      ∃ cause levels, tracker.levels.observe line.width = (.error cause, levels) ∧
        fault = ⟨line.number, cause⟩ ∧ next = { tracker with levels } := by
  unfold classify at failed
  split at failed
  · simp at failed
  split at failed
  · simp at failed
  split at failed
  · rename_i cause misplaced
    split at misplaced
    · simp only [Prod.mk.injEq, Except.error.injEq] at failed
      exact .inl ⟨cause, misplaced, failed.1.symm, failed.2.symm⟩
    · simp at misplaced
  · split at failed
    · simp at failed
    · rename_i cause levels observed
      simp only [Prod.mk.injEq, Except.error.injEq] at failed
      exact .inr ⟨cause, levels, observed, failed.1.symm, failed.2.symm⟩

/-- A line that can be read is rejected for the place of a comment or for its width. -/
theorem classify_error {line : StrippedLine}
    (failed : classify options line tracker = (.error fault, next)) :
    fault.line = line.number ∧
      (fault.cause.isMisplacement = true ∨ fault.cause = .indentedBaseline line.width ∨
        fault.cause = .unmatchedWidth line.width) := by
  rcases classify_failed failed with ⟨cause, misplaced, rfl, -⟩ | ⟨cause, levels, observed, rfl, -⟩
  · exact ⟨rfl, .inl (StrippedLine.isMisplacement_misplacedComment? misplaced)⟩
  · exact ⟨rfl, .inr (Levels.observe_error observed)⟩

/-- A rejected line is named by its fault, and no comment was left open. -/
theorem step_error (failed : tracker.step options number line = (.error fault, next)) :
    fault.line = number ∧ ∀ openedAt, fault.cause ≠ .unterminatedComment openedAt := by
  unfold step at failed
  split at failed
  · rename_i stripped carry read
    obtain ⟨same, cause⟩ := classify_error failed
    refine ⟨by rw [same, Carry.number_strip read], ?_⟩
    intro openedAt unclosed
    simp [unclosed, Cause.isMisplacement] at cause
  · rename_i found carry read
    cases failed
    obtain ⟨same, cause⟩ := Carry.strip_error read
    refine ⟨same, ?_⟩
    intro openedAt unclosed
    simp [unclosed] at cause

/-- The text may not end inside a block comment, and the fault is that of the last line. -/
theorem finish_error (failed : tracker.finish = (.error fault, next)) :
    fault.line = tracker.lastLine ∧
      ∃ openedAt, tracker.carry.mode = .blockComment openedAt ∧
        fault.cause = .unterminatedComment openedAt := by
  unfold finish at failed
  split at failed
  · rename_i openedAt inside
    cases failed
    exact ⟨rfl, openedAt, inside, rfl⟩
  · simp at failed

end Tracker

end Offside
