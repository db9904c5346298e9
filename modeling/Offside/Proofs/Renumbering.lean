import Offside.Proofs.Course

/-! Lines under other numbers. Numbers are kept by the tracker and named by faults, and nothing is
decided by them: reading a line, giving it its role and ending the text do the same under other
numbers (`Tracker.step_renumber`, `Tracker.finish_renumber`), and so does a run
(`Tracker.Course.renumber`). -/

namespace Offside

variable (f : Nat → Nat)

/-- The same place, when line `n` has the number `f n`. -/
def Mode.renumber : Mode → Mode
  | blockComment openedAt => blockComment (f openedAt)
  | mode => mode

def Marking.renumber (marking : Marking) : Marking :=
  { marking with mode := marking.mode.renumber f }

def Carry.renumber (carry : Carry) : Carry :=
  { carry with mode := carry.mode.renumber f }

def StrippedLine.renumber (line : StrippedLine) : StrippedLine :=
  { line with number := f line.number }

def Cause.renumber : Cause → Cause
  | unterminatedComment openedAt => unterminatedComment (f openedAt)
  | cause => cause

def Fault.renumber (fault : Fault) : Fault :=
  { line := f fault.line, cause := fault.cause.renumber f }

def Tracker.renumber (tracker : Tracker) : Tracker :=
  { tracker with carry := tracker.carry.renumber f, lastLine := f tracker.lastLine }

@[simp] theorem Cause.kind_renumber (cause : Cause) : (cause.renumber f).kind = cause.kind := by
  cases cause <;> rfl

/-- No number but that of an open comment is part of what is wrong. -/
theorem Cause.renumber_eq {cause : Cause}
    (closed : ∀ openedAt, cause ≠ .unterminatedComment openedAt) : cause.renumber f = cause := by
  cases cause with
  | unterminatedComment openedAt => exact absurd rfl (closed openedAt)
  | _ => rfl

@[simp] theorem Mode.inBlockComment_renumber (mode : Mode) :
    (mode.renumber f).inBlockComment = mode.inBlockComment := by
  cases mode <;> rfl

/-- The number of a line is nothing but what a comment that is opened there is named by. -/
theorem Marking.read_renumber (number : Nat) (mode : Mode) (lexemes : List Lexeme) :
    read (f number) (mode.renumber f) lexemes = (read number mode lexemes).renumber f := by
  fun_induction read number mode lexemes <;> simp_all [read, renumber, cons, Mode.renumber]

theorem Carry.strip_renumber (tail : CommentTail) (number : Nat) (line : String) (carry : Carry) :
    (carry.renumber f).strip tail (f number) line =
      (((carry.strip tail number line).1.map (StrippedLine.renumber f)).mapError
        (Fault.renumber f), (carry.strip tail number line).2.renumber f) := by
  have read : Marking.read (f number) (carry.renumber f).mode (Lexeme.ofLine line.toList) =
      (Marking.read number carry.mode (Lexeme.ofLine line.toList)).renumber f :=
    Marking.read_renumber f number carry.mode (Lexeme.ofLine line.toList)
  have carried : (carry.renumber f).mode.inBlockComment = carry.mode.inBlockComment :=
    carry.mode.inBlockComment_renumber f
  have nesting : (carry.renumber f).nesting = carry.nesting := rfl
  unfold strip
  dsimp only
  rw [read, carried, nesting]
  generalize Marking.read number carry.mode (Lexeme.ofLine line.toList) = marking
  have shown : (marking.renumber f).shown tail carry.mode.inBlockComment =
      marking.shown tail carry.mode.inBlockComment := by
    simp [Marking.shown, Marking.trimmed, Marking.padded, Marking.hasCode, Marking.renumber]
  rw [shown]
  obtain ⟨segments, mode⟩ := marking
  dsimp only [Marking.renumber]
  cases followed : Segment.follow carry.nesting segments with
  | error cause =>
    simp [Except.map, Except.mapError, Fault.renumber, Carry.renumber, Mode.renumber,
      Segment.follow_error followed, Cause.renumber]
  | ok nesting => cases mode <;> rfl

namespace Tracker

variable {options : Options} {tracker : Tracker} {lines : List String} {events : List Event}
variable {ending : Except Fault Nat}

theorem classify_renumber (options : Options) (line : StrippedLine) (tracker : Tracker) :
    classify options (line.renumber f) (tracker.renumber f) =
      ((classify options line tracker).1.mapError (Fault.renumber f),
        (classify options line tracker).2.renumber f) := by
  have misplaced : (line.renumber f).misplacedComment? = line.misplacedComment? := rfl
  have empty : (line.renumber f).isEmpty = line.isEmpty := rfl
  have width : (line.renumber f).width = line.width := rfl
  have depth : (line.renumber f).depthAtStart = line.depthAtStart := rfl
  have levels : (tracker.renumber f).levels = tracker.levels := rfl
  unfold classify
  rw [misplaced, empty, width, depth, levels]
  split
  · rfl
  split
  · rfl
  cases found : if options.strict then line.misplacedComment? else none with
  | some cause =>
    have closed : ∀ openedAt, cause ≠ .unterminatedComment openedAt := by
      rintro openedAt rfl
      split at found
      · simpa [Cause.isMisplacement] using StrippedLine.isMisplacement_misplacedComment? found
      · simp at found
    simp [Except.mapError, Fault.renumber, Cause.renumber_eq f closed, StrippedLine.renumber]
  | none =>
    cases observed : tracker.levels.observe line.width with
    | mk result levels =>
      cases result with
      | ok shift => rfl
      | error cause =>
        have closed : ∀ openedAt, cause ≠ .unterminatedComment openedAt := by
          rintro openedAt rfl
          simpa using Levels.observe_error observed
        simp [Except.mapError, Fault.renumber, Cause.renumber_eq f closed, StrippedLine.renumber,
          Tracker.renumber]

/-- A step does not depend on how lines are numbered. -/
theorem step_renumber (options : Options) (number : Nat) (line : String) (tracker : Tracker) :
    (tracker.renumber f).step options (f number) line =
      ((tracker.step options number line).1.mapError (Fault.renumber f),
        (tracker.step options number line).2.renumber f) := by
  have read := tracker.carry.strip_renumber f options.tail number line
  have carry : (tracker.renumber f).carry = tracker.carry.renumber f := rfl
  unfold step
  rw [carry, read]
  cases tracker.carry.strip options.tail number line with
  | mk result carry =>
    cases result with
    | ok stripped =>
      exact classify_renumber f options stripped { tracker with carry, lastLine := number }
    | error fault => rfl

theorem finish_renumber (tracker : Tracker) :
    (tracker.renumber f).finish.1 = tracker.finish.1.mapError (Fault.renumber f) := by
  obtain ⟨⟨mode, nesting⟩, levels, lastLine⟩ := tracker
  cases mode <;> rfl

/-- The same run with other numbers: as long as they still go up by one, only faults can tell. -/
theorem Course.renumber (counts : ∀ number, f (number + 1) = f number + 1)
    (course : Course options tracker lines events ending) :
    Course options (tracker.renumber f) lines events (ending.mapError (Fault.renumber f)) := by
  induction course with
  | @ended ending tracker finished => exact .ended (by rw [finish_renumber, finished])
  | @rejected line tracker fault lines rejects =>
    have step := step_renumber f options (tracker.lastLine + 1) line tracker
    rw [rejects, counts] at step
    have rejectsToo : ((tracker.renumber f).step options (f tracker.lastLine + 1) line).1 =
        .error (fault.renumber f) := congrArg Prod.fst step
    exact .rejected lines rejectsToo
  | @accepted line event lines events ending tracker next passed rest ih =>
    have step := step_renumber f options (tracker.lastLine + 1) line tracker
    rw [passed, counts] at step
    exact .accepted step ih

end Tracker

end Offside
