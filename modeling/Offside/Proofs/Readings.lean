import Offside.Proofs.Trace

/-! All lines of a text read one after the other, and what a `Tracker.Trace` makes of them: the
lines whose indentation counts are compared with the levels, and every line has its role
(`Tracker.Trace.readings`). -/

namespace Offside

/-- An accepted line: what remains of it, what its characters count as, and what it leaves for the
line after it. -/
structure Reading where
  stripped : StrippedLine
  marking : Marking
  after : Carry
deriving DecidableEq, Repr

namespace Carry

/-- Reads one line. -/
def readLine (tail : CommentTail) (number : Nat) (line : String) (carry : Carry) :
    Except Fault Reading :=
  match carry.strip tail number line with
  | (.ok stripped, after) =>
    .ok ⟨stripped, Marking.read number carry.mode (Lexeme.ofLine line.toList), after⟩
  | (.error fault, _) => .error fault

/-- Reads lines that are numbered from `number` on, up to the first fault. -/
def readLines (tail : CommentTail) (carry : Carry) (number : Nat) :
    List String → Except Fault (List Reading × Carry)
  | [] => .ok ([], carry)
  | line :: lines =>
    match carry.readLine tail number line with
    | .error fault => .error fault
    | .ok reading =>
      match readLines tail reading.after (number + 1) lines with
      | .error fault => .error fault
      | .ok (readings, final) => .ok (reading :: readings, final)

variable {tail : CommentTail} {carry after final : Carry} {line : String} {reading : Reading}
variable {stripped : StrippedLine}

theorem readLine_of_strip (passed : carry.strip tail number line = (.ok stripped, after)) :
    carry.readLine tail number line =
      .ok ⟨stripped, Marking.read number carry.mode (Lexeme.ofLine line.toList), after⟩ := by
  simp only [readLine, passed]

theorem strip_of_readLine (passed : carry.readLine tail number line = .ok reading) :
    carry.strip tail number line = (.ok reading.stripped, reading.after) := by
  unfold readLine at passed
  split at passed
  · rename_i same
    cases passed
    exact same
  · simp at passed

/-- All that is known of an accepted line. -/
theorem readLine_ok (passed : carry.readLine tail number line = .ok reading) :
    reading.marking = Marking.read number carry.mode (Lexeme.ofLine line.toList) ∧
    Segment.follow carry.nesting reading.marking.segments = .ok reading.after.nesting ∧
    reading.marking.mode ≠ .string ∧
    reading.after.mode = reading.marking.mode.afterLine ∧
    reading.stripped =
      { number
        text := String.ofList (reading.marking.shown tail carry.mode.inBlockComment)
        depthAtStart := carry.nesting.depth
        ledByComment := Segment.ledByComment reading.marking.segments
        codeAfterCarriedComment := carry.mode.inBlockComment && reading.marking.hasCode } := by
  unfold readLine strip at passed
  split at passed
  · rename_i stripped after same
    dsimp only at same
    split at same
    · simp at same
    rename_i nesting followed
    split at same
    · simp at same
    rename_i mode closed
    simp only [Prod.mk.injEq, Except.ok.injEq] at same passed
    obtain ⟨rfl, rfl⟩ := same
    subst passed
    exact ⟨rfl, followed, closed, rfl, rfl⟩
  · simp at passed

theorem readLines_cons (passed : carry.readLines tail number (line :: lines) = .ok (readings, final)) :
    ∃ reading rest, carry.readLine tail number line = .ok reading ∧
      reading.after.readLines tail (number + 1) lines = .ok (rest, final) ∧
      readings = reading :: rest := by
  unfold readLines at passed
  split at passed
  · simp at passed
  rename_i reading read
  split at passed
  · simp at passed
  rename_i rest last readRest
  simp only [Except.ok.injEq, Prod.mk.injEq] at passed
  obtain ⟨rfl, rfl⟩ := passed
  exact ⟨reading, rest, read, readRest, rfl⟩

theorem readLines_of_cons (read : carry.readLine tail number line = .ok reading)
    (rest : reading.after.readLines tail (number + 1) lines = .ok (readings, final)) :
    carry.readLines tail number (line :: lines) = .ok (reading :: readings, final) := by
  simp [readLines, read, rest]

theorem length_readLines (passed : carry.readLines tail number lines = .ok (readings, final)) :
    readings.length = lines.length := by
  induction lines generalizing carry number readings with
  | nil => simp_all [readLines]
  | cons line lines ih =>
    obtain ⟨reading, rest, _, readRest, rfl⟩ := readLines_cons passed
    simp [ih readRest]

end Carry

/-- The indentation of the line counts. -/
def StrippedLine.isContent (line : StrippedLine) : Bool :=
  !line.isEmpty && line.depthAtStart == 0

/-- Compares the widths with the levels, one after the other, up to the first fault. -/
def Levels.observeAll (levels : Levels) : List Nat → Except Cause (List Shift × Levels)
  | [] => .ok ([], levels)
  | width :: widths =>
    match levels.observe width with
    | (.error cause, _) => .error cause
    | (.ok shift, next) =>
      match next.observeAll widths with
      | .error cause => .error cause
      | .ok (shifts, final) => .ok (shift :: shifts, final)

theorem Levels.length_observeAll {levels final : Levels} {widths : List Nat}
    (passed : levels.observeAll widths = .ok (shifts, final)) : shifts.length = widths.length := by
  induction widths generalizing levels shifts with
  | nil => simp_all [observeAll]
  | cons width widths ih =>
    unfold observeAll at passed
    split at passed
    · simp at passed
    split at passed
    · simp at passed
    rename_i shifts' _ observed
    simp only [Except.ok.injEq, Prod.mk.injEq] at passed
    obtain ⟨rfl, rfl⟩ := passed
    simp [ih observed]

/-- The roles of the lines, when the shifts are those of the lines whose indentation counts. -/
def roles : List StrippedLine → List Shift → List Event
  | [], _ => []
  | line :: lines, shifts =>
    if line.isEmpty then .blank line.text :: roles lines shifts
    else if 0 < line.depthAtStart then .nested line.text :: roles lines shifts
    else .content line.text (shifts.headD .baseline) :: roles lines shifts.tail

namespace Tracker

variable {options : Options} {tracker next final : Tracker} {lines : List String}
variable {events : List Event}

/-- An accepted line was read, and its role follows from what remains of it. -/
theorem reading_of_step (passed : tracker.step options number line = (.ok event, next)) :
    ∃ reading, tracker.carry.readLine options.tail number line = .ok reading ∧
      next.carry = reading.after ∧ next.lastLine = number ∧
      Role options reading.stripped { tracker with carry := reading.after, lastLine := number }
        event next := by
  obtain ⟨stripped, carry, read, classified⟩ := step_ok passed
  refine ⟨_, Carry.readLine_of_strip read, ?_, ?_, classify_ok classified⟩
  · simpa [classified] using carry_classify options stripped { tracker with carry, lastLine := number }
  · simpa [classified] using
      lastLine_classify options stripped { tracker with carry, lastLine := number }

/-- The texts of the roles are what remains of the lines. -/
theorem Trace.texts (trace : Trace options tracker lines events final) :
    ∃ readings, tracker.carry.readLines options.tail (tracker.lastLine + 1) lines =
        .ok (readings, final.carry) ∧
      events.map Event.text = readings.map (·.stripped.text) := by
  induction trace with
  | done => exact ⟨[], rfl, rfl⟩
  | step passed rest ih =>
    obtain ⟨reading, read, carried, numbered, role⟩ := reading_of_step passed
    obtain ⟨readings, readRest, same⟩ := ih
    rw [carried, numbered] at readRest
    refine ⟨reading :: readings, Carry.readLines_of_cons read readRest, ?_⟩
    rw [List.map_cons, List.map_cons, same, role.text_eq]

/-- A run without a fault reads all lines, and their roles come from comparing the widths of the
lines whose indentation counts with the levels. -/
theorem Trace.readings (trace : Trace options tracker lines events final) :
    ∃ readings shifts,
      tracker.carry.readLines options.tail (tracker.lastLine + 1) lines =
        .ok (readings, final.carry) ∧
      tracker.levels.observeAll
        (((readings.map Reading.stripped).filter StrippedLine.isContent).map StrippedLine.width) =
          .ok (shifts, final.levels) ∧
      events = roles (readings.map Reading.stripped) shifts := by
  induction trace with
  | done => exact ⟨[], [], rfl, rfl, rfl⟩
  | step passed rest ih =>
    obtain ⟨reading, read, carried, numbered, role⟩ := reading_of_step passed
    obtain ⟨readings, shifts, readRest, observed, same⟩ := ih
    rw [carried, numbered] at readRest
    have readAll := Carry.readLines_of_cons read readRest
    cases role with
    | blank empty =>
      refine ⟨reading :: readings, shifts, readAll, ?_, ?_⟩
      · simpa [StrippedLine.isContent, empty] using observed
      · simp [roles, empty, same]
    | nested filled inside =>
      refine ⟨reading :: readings, shifts, readAll, ?_, ?_⟩
      · simpa [StrippedLine.isContent, filled, Nat.ne_of_gt inside] using observed
      · simp [roles, filled, inside, same]
    | @content shift levels filled outside placed seen =>
      refine ⟨reading :: readings, shift :: shifts, readAll, ?_, ?_⟩
      · simp only at observed seen
        simp [StrippedLine.isContent, filled, outside, Levels.observeAll, seen, observed]
      · simp [roles, filled, outside, same]

end Tracker

end Offside
