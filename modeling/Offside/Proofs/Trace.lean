import Offside.Tracker

/-! Runs of the tracker without a fault. A `Trace` numbers its lines one after the other, as a
session does, and records the role of each of them. -/

namespace Offside.Tracker

/-- Reading the lines one after the other gives the roles and leads from the first tracker to the
second. -/
inductive Trace (options : Options) : Tracker → List String → List Event → Tracker → Prop where
  | done {tracker : Tracker} : Trace options tracker [] [] tracker
  | step {tracker next : Tracker} (passed : tracker.step options (tracker.lastLine + 1) line = (.ok event, next))
      (rest : Trace options next lines events final) :
      Trace options tracker (line :: lines) (event :: events) final

variable {options : Options} {tracker next final : Tracker} {lines : List String}
variable {events : List Event}

/-- The tracker behind the lines, whether or not they were accepted. -/
def readAll (options : Options) (tracker : Tracker) (lines : List String) : Tracker :=
  lines.foldl (fun tracker line => (tracker.step options (tracker.lastLine + 1) line).2) tracker

@[simp] theorem lastLine_classify (options : Options) (line : StrippedLine) (tracker : Tracker) :
    (classify options line tracker).2.lastLine = tracker.lastLine := by
  fun_cases classify options line tracker <;> rfl

@[simp] theorem carry_classify (options : Options) (line : StrippedLine) (tracker : Tracker) :
    (classify options line tracker).2.carry = tracker.carry := by
  fun_cases classify options line tracker <;> rfl

@[simp] theorem lastLine_step (options : Options) (number : Nat) (line : String)
    (tracker : Tracker) : (tracker.step options number line).2.lastLine = number := by
  unfold step
  split <;> simp

theorem carry_step (options : Options) (number : Nat) (line : String) (tracker : Tracker) :
    (tracker.step options number line).2.carry =
      (tracker.carry.strip options.tail number line).2 := by
  unfold step
  split
  · rename_i stripped carry read
    rw [carry_classify, read]
  · rename_i fault carry read
    rw [read]

/-- An accepted line was stripped of its comments and then given its role. -/
theorem step_ok (passed : tracker.step options number line = (.ok event, next)) :
    ∃ stripped carry, tracker.carry.strip options.tail number line = (.ok stripped, carry) ∧
      classify options stripped { tracker with carry, lastLine := number } = (.ok event, next) := by
  unfold step at passed
  split at passed
  · rename_i stripped carry same
    exact ⟨stripped, carry, same, passed⟩
  · simp at passed

/-- The role of an accepted line: an empty line and a line inside brackets leave the levels alone,
any other line is compared with them. -/
inductive Role (options : Options) (line : StrippedLine) (tracker : Tracker) :
    Event → Tracker → Prop where
  | blank (empty : line.isEmpty = true) : Role options line tracker (.blank line.text) tracker
  | nested (filled : line.isEmpty = false) (inside : 0 < line.depthAtStart) :
      Role options line tracker (.nested line.text) tracker
  | content {shift : Shift} {levels : Levels} (filled : line.isEmpty = false)
      (outside : line.depthAtStart = 0)
      (placed : options.strict = true → line.misplacedComment? = none)
      (observed : tracker.levels.observe line.width = (.ok shift, levels)) :
      Role options line tracker (.content line.text shift) { tracker with levels }

theorem Role.text_eq (role : Role options line tracker event next) : event.text = line.text := by
  cases role <;> rfl

theorem classify_ok (passed : classify options line tracker = (.ok event, next)) :
    Role options line tracker event next := by
  unfold classify at passed
  split at passed
  · rename_i empty
    simp only [Prod.mk.injEq, Except.ok.injEq] at passed
    obtain ⟨rfl, rfl⟩ := passed
    exact .blank empty
  rename_i filled
  have filled : line.isEmpty = false := by simpa using filled
  split at passed
  · rename_i inside
    simp only [Prod.mk.injEq, Except.ok.injEq] at passed
    obtain ⟨rfl, rfl⟩ := passed
    exact .nested filled inside
  rename_i outside
  split at passed
  · simp at passed
  rename_i placed
  split at passed
  · rename_i shift levels observed
    simp only [Prod.mk.injEq, Except.ok.injEq] at passed
    obtain ⟨rfl, rfl⟩ := passed
    refine .content filled (by omega) ?_ observed
    intro strict
    simpa [strict] using placed
  · simp at passed

/-- Where every comment may stand, or stands well, a line that the levels accept is accepted. -/
theorem classify_of_role (role : Role options line tracker event next) :
    classify options line tracker = (.ok event, next) := by
  cases role with
  | blank empty => simp [classify, empty]
  | nested filled inside => simp [classify, filled, inside]
  | content filled outside placed observed =>
    have free : (if options.strict then line.misplacedComment? else none) = none := by
      cases strict : options.strict with
      | true => simpa using placed strict
      | false => simp
    simp [classify, filled, outside, free, observed]

theorem Trace.readAll (trace : Trace options tracker lines events final) :
    tracker.readAll options lines = final := by
  induction trace with
  | done => rfl
  | step passed rest ih =>
    rw [Tracker.readAll, List.foldl_cons, passed]
    exact ih

theorem Trace.append (trace : Trace options tracker lines events next)
    (rest : Trace options next moreLines moreEvents final) :
    Trace options tracker (lines ++ moreLines) (events ++ moreEvents) final := by
  induction trace with
  | done => exact rest
  | step passed _ ih => exact .step passed (ih rest)

theorem Trace.length_events (trace : Trace options tracker lines events final) :
    events.length = lines.length := by
  induction trace with
  | done => rfl
  | step passed rest ih => simp [ih]

/-- The text may end where no block comment is open, and then the open levels are closed. -/
theorem finish_ok (passed : tracker.finish = (.ok openLevels, ended)) :
    tracker.carry.mode.inBlockComment = false ∧ openLevels = tracker.levels.depth := by
  unfold finish at passed
  split at passed
  · simp at passed
  · rename_i outside
    simp only [Prod.mk.injEq, Except.ok.injEq] at passed
    refine ⟨?_, passed.1.symm⟩
    cases mode : tracker.carry.mode with
    | blockComment openedAt => exact absurd mode (outside openedAt)
    | _ => rfl

theorem finish_of_not_inBlockComment
    (closed : tracker.carry.mode.inBlockComment = false) :
    tracker.finish = (.ok tracker.levels.depth, { tracker with levels := tracker.levels.clear }) := by
  unfold finish
  split
  · rename_i openedAt mode
    simp [mode, Mode.inBlockComment] at closed
  · rfl

end Offside.Tracker
