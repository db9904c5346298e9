import Offside.Proofs.Course
import Offside.Proofs.RedactedRun

/-! The lines that a fault names. The line of a fault is the last one pulled, and a comment that is
left open is named by the line that opens it: no other line has a mark behind which the text never
leaves the comment (`Marking.OpensForGood.unique`, `Tracker.Trace.opensForGood`). -/

namespace Offside

/-- A stretch inside a block comment, without the marks at its ends. -/
def Segment.isComment : Segment → Bool
  | comment _ => true
  | _ => false

namespace Marking

/-- The whole line is inside a block comment. -/
def IsInside (marking : Marking) : Prop :=
  ∀ segment ∈ marking.segments, segment.isComment = true

/-- A block comment is opened in the line, and the rest of the line is inside of it. -/
def Opens (marking : Marking) : Prop :=
  ∃ front back, marking.segments = front ++ .opener :: back ∧
    ∀ segment ∈ back, segment.isComment = true

/-- In line `i` a block comment is opened, and the text does not leave it again. Lines count from
zero. -/
def OpensForGood (markings : List Marking) (i : Nat) : Prop :=
  (∃ marking, markings[i]? = some marking ∧ marking.Opens) ∧
    ∀ j later, i < j → markings[j]? = some later → later.IsInside

variable {marking : Marking} {markings : List Marking}

theorem IsInside.cons (inside : marking.IsInside) (run : List Char) :
    (marking.cons (.comment run)).IsInside :=
  List.forall_mem_cons.mpr ⟨rfl, inside⟩

theorem IsInside.opens (inside : marking.IsInside) : (marking.cons .opener).Opens :=
  ⟨[], marking.segments, rfl, inside⟩

theorem Opens.cons (opens : marking.Opens) (segment : Segment) : (marking.cons segment).Opens := by
  obtain ⟨front, back, split, rest⟩ := opens
  exact ⟨segment :: front, back, congrArg (segment :: ·) split, rest⟩

theorem Opens.not_isInside (opens : marking.Opens) : ¬marking.IsInside := by
  obtain ⟨front, back, split, -⟩ := opens
  intro inside
  simpa [Segment.isComment] using inside .opener (by simp [split])

/-- A line that ends in a block comment lies inside of it as a whole, or opens it and does not leave
it again. -/
theorem read_of_open {number : Nat} {mode : Mode} {lexemes : List Lexeme}
    (ends : (read number mode lexemes).mode = .blockComment openedAt) :
    (mode = .blockComment openedAt ∧ (read number mode lexemes).IsInside) ∨
      (openedAt = number ∧ (read number mode lexemes).Opens) := by
  fun_induction read number mode lexemes with
  | case1 mode => exact .inl ⟨ends, by simp [IsInside]⟩
  | case2 | case12 => simp at ends
  | case3 rest ih =>
    rcases ih ends with ⟨same, inside⟩ | ⟨here, opens⟩
    · exact .inr ⟨(Mode.blockComment.inj same).symm, inside.opens⟩
    · exact .inr ⟨here, opens.cons _⟩
  | case11 outer lexeme rest _ ih =>
    rcases ih ends with ⟨same, inside⟩ | ⟨here, opens⟩
    · exact .inl ⟨same, inside.cons _⟩
    · exact .inr ⟨here, opens.cons _⟩
  | case4 lexeme rest ih | case7 lexeme rest ih =>
    obtain ⟨here, opens⟩ := (ih ends).resolve_left (by simp)
    exact .inr ⟨here, (opens.cons _).cons _⟩
  | case5 rest ih | case6 _ rest _ _ _ _ ih | case8 rest ih | case9 _ rest _ _ ih
  | case10 _ rest ih =>
    obtain ⟨here, opens⟩ := (ih ends).resolve_left (by simp)
    exact .inr ⟨here, opens.cons _⟩

namespace OpensForGood

theorem cons (opens : OpensForGood markings i) (marking : Marking) :
    OpensForGood (marking :: markings) (i + 1) := by
  refine ⟨opens.1, fun j later behind found => ?_⟩
  cases j with
  | zero => omega
  | succ j => exact opens.2 j later (by omega) found

theorem first (opens : marking.Opens) (rest : ∀ later ∈ markings, later.IsInside) :
    OpensForGood (marking :: markings) 0 := by
  refine ⟨⟨marking, rfl, opens⟩, fun j later behind found => ?_⟩
  cases j with
  | zero => omega
  | succ j => exact rest later (List.mem_of_getElem? found)

theorem not_lt (here : OpensForGood markings i) (there : OpensForGood markings j) : ¬i < j := by
  intro before
  obtain ⟨⟨marking, found, opens⟩, -⟩ := there
  exact opens.not_isInside (here.2 j marking before found)

/-- There is at most one such line. -/
theorem unique (here : OpensForGood markings i) (there : OpensForGood markings j) : i = j := by
  have := here.not_lt there
  have := there.not_lt here
  omega

end OpensForGood

end Marking

/-- A block comment goes on behind the end of its line. -/
theorem Mode.afterLine_eq_blockComment_iff {mode : Mode} :
    mode.afterLine = .blockComment openedAt ↔ mode = .blockComment openedAt := by
  cases mode <;> simp [afterLine]

namespace Tracker

variable {options : Options} {tracker final : Tracker} {lines : List String} {events : List Event}

/-- The block comment that is open behind accepted lines was open before them, and they are inside of
it; or one of them opens it for good, and it is named by that line. -/
theorem Trace.opensForGood (trace : Trace options tracker lines events final)
    (ends : final.carry.mode = .blockComment openedAt) :
    (tracker.carry.mode = .blockComment openedAt ∧
        ∀ marking ∈ Marking.ofLines (tracker.lastLine + 1) tracker.carry.mode lines,
          marking.IsInside) ∨
      ∃ i, openedAt = tracker.lastLine + 1 + i ∧
        Marking.OpensForGood (Marking.ofLines (tracker.lastLine + 1) tracker.carry.mode lines) i := by
  induction trace with
  | done => exact .inl ⟨ends, by simp [Marking.ofLines]⟩
  | @step line event lines events final tracker next passed rest ih =>
    obtain ⟨reading, read, carried, numbered, -⟩ := reading_of_step passed
    obtain ⟨marking, -, -, mode, -⟩ := Carry.readLine_ok read
    have behind : next.carry.mode = reading.marking.mode.afterLine := by rw [carried, mode]
    rw [numbered, behind] at ih
    rw [Marking.ofLines, ← marking]
    rcases ih ends with ⟨same, inside⟩ | ⟨i, opened, opens⟩
    · have unclosed := Mode.afterLine_eq_blockComment_iff.mp same
      rw [marking] at unclosed
      rcases Marking.read_of_open unclosed with ⟨same, insideHere⟩ | ⟨here, opens⟩
      · exact .inl ⟨same, List.forall_mem_cons.mpr ⟨marking ▸ insideHere, inside⟩⟩
      · exact .inr ⟨0, here, .first (marking ▸ opens) inside⟩
    · exact .inr ⟨i + 1, by omega, opens.cons reading.marking⟩

end Tracker

section Faults

variable {options : Options} {lines : List String} {events : List Event} {final : Tracker}
variable {fault : Fault}

/-- Where accepted lines end inside a block comment, the end of the text is refused. -/
theorem Tracker.Trace.fault_of_open (trace : Trace options {} lines events final)
    (inside : final.carry.mode = .blockComment openedAt)
    (failed : (processLines options lines).fault? = some fault) :
    fault = ⟨lines.length, .unterminatedComment openedAt⟩ := by
  have refused : final.finish.1 = .error ⟨lines.length, .unterminatedComment openedAt⟩ := by
    simp [finish, inside, trace.lastLine_start]
  have course := trace.course (.ended refused)
  rw [List.append_nil] at course
  rw [processLines_of_course course] at failed
  exact (Option.some.inj failed).symm

theorem open_of_unterminatedComment (failed : (processLines options lines).fault? = some fault)
    (unclosed : fault.cause = .unterminatedComment openedAt) :
    ∃ events final, Tracker.Trace options {} lines events final ∧
      final.carry.mode = .blockComment openedAt := by
  obtain ⟨events, course⟩ := exists_course_of_fault failed
  rcases course.failed with ⟨final, trace, refuses⟩ | ⟨-, -, other⟩
  · obtain ⟨-, opened, inside, cause⟩ := Tracker.finish_error (Prod.ext refuses rfl)
    obtain rfl : opened = openedAt := by simpa [cause] using unclosed
    exact ⟨events, final, trace, inside⟩
  · exact absurd unclosed (other openedAt)

/-- A fault names a line of the text. -/
theorem line_of_fault (failed : (processLines options lines).fault? = some fault) :
    1 ≤ fault.line ∧ fault.line ≤ lines.length := by
  obtain ⟨events, course⟩ := exists_course_of_fault failed
  rcases course.failed with ⟨final, trace, refuses⟩ | ⟨within, named, -⟩
  · obtain ⟨named, openedAt, inside, -⟩ := Tracker.finish_error (Prod.ext refuses rfl)
    rw [named, trace.lastLine_start]
    refine ⟨?_, Nat.le_refl _⟩
    -- Without lines there is no comment that could be open.
    cases trace with
    | done => simp at inside
    | step => simp
  · have numbered : fault.line = 0 + events.length + 1 := named
    omega

end Faults

/-- A fault points at the right lines. It names the last line that was pulled, which is one of the
text. It says that a comment was left open just when all lines were accepted and end inside a block
comment; then it names the last line, and the comment it names is the one that is opened in a
line and not left again up to the end. -/
theorem fault_names_lines {options : Options} {lines : List String} {fault : Fault} {call : Nat}
    (failed : (replies options lines call).answer? = some (.fault fault)) :
    1 ≤ fault.line ∧ fault.line ≤ lines.length ∧
    (replies options lines call).pulled = fault.line ∧
    ((∃ openedAt, fault.cause = .unterminatedComment openedAt) ↔
      ∃ events final, Tracker.Trace options {} lines events final ∧
        final.carry.mode.inBlockComment = true) ∧
    ∀ openedAt, fault.cause = .unterminatedComment openedAt →
      fault.line = lines.length ∧
      fault.cause.message = s!"unterminated block comment opened at line {openedAt}" ∧
      ∀ i, Marking.OpensForGood (Marking.ofLines 1 .code lines) i ↔ openedAt = i + 1 := by
  rw [answer?_replies, Option.some.injEq, Outcome.answer_eq_fault_iff] at failed
  obtain ⟨behind, failed⟩ := failed
  obtain ⟨positive, within⟩ := line_of_fault failed
  refine ⟨positive, within, ?_, ⟨?_, ?_⟩, ?_⟩
  · rw [pulled_replies_behind (Nat.le_of_eq behind.symm), Outcome.lastPulled, failed]
  · rintro ⟨openedAt, unclosed⟩
    obtain ⟨events, final, trace, inside⟩ := open_of_unterminatedComment failed unclosed
    exact ⟨events, final, trace, by rw [inside]; rfl⟩
  · rintro ⟨events, final, trace, inside⟩
    cases mode : final.carry.mode with
    | blockComment openedAt => exact ⟨openedAt, by rw [trace.fault_of_open mode failed]⟩
    | code | string | lineComment => simp [mode, Mode.inBlockComment] at inside
  · intro openedAt unclosed
    obtain ⟨events, final, trace, inside⟩ := open_of_unterminatedComment failed unclosed
    refine ⟨by rw [trace.fault_of_open inside failed], by rw [unclosed]; rfl, fun i => ?_⟩
    obtain ⟨j, numbered, opens⟩ := (trace.opensForGood inside).resolve_left (by simp)
    have numbered : openedAt = 0 + 1 + j := numbered
    exact ⟨fun here => by have := here.unique opens; omega,
      fun here => by rwa [show i = j by omega]⟩

/-- A comment over two lines, one within a line, and one that is left open. -/
theorem fault_names_lines_reopened :
    (replies {} ["x /* a", "b */ /* c */ /* d", "e"] 0).answer? =
      some (.fault ⟨3, .unterminatedComment 2⟩) ∧
    1 ≤ 3 ∧ 3 ≤ ["x /* a", "b */ /* c */ /* d", "e"].length ∧
    (replies {} ["x /* a", "b */ /* c */ /* d", "e"] 0).pulled = 3 ∧
    (∃ events final,
      Tracker.Trace {} {} ["x /* a", "b */ /* c */ /* d", "e"] events final ∧
        final.carry.mode.inBlockComment = true) ∧
    ∀ i, Marking.OpensForGood
      (Marking.ofLines 1 .code ["x /* a", "b */ /* c */ /* d", "e"]) i ↔ 2 = i + 1 := by
  have failed : (replies {} ["x /* a", "b */ /* c */ /* d", "e"] 0).answer? =
      some (.fault ⟨3, .unterminatedComment 2⟩) := by
    decide +kernel
  obtain ⟨positive, within, pulled, unclosed, opened⟩ := fault_names_lines failed
  exact ⟨failed, positive, within, pulled, unclosed.mp ⟨2, rfl⟩, (opened 2 rfl).2.2⟩

end Offside
