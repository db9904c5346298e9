import Mathlib.Data.Nat.Find
import Offside.Proofs.Foresight
import Offside.Proofs.Observation
import Offside.Proofs.Readings

/-! The whole output as a function of all lines at once. `delimiterAt` looks forward from a line to
the next one that is not empty; a run without a fault delivers exactly that
(`processLines_eq_batch`). -/

namespace Offside

/-- Line `i` is there and is not empty. Lines count from zero. -/
def filledAt (lines : List StrippedLine) (i : Nat) : Bool :=
  lines[i]?.any fun line => !line.isEmpty

/-- Line `i` is there and its indentation counts. -/
def contentAt (lines : List StrippedLine) (i : Nat) : Bool :=
  lines[i]?.any StrippedLine.isContent

/-- The next line behind line `i` that is not empty. -/
def nextFilled? (lines : List StrippedLine) (i : Nat) : Option Nat :=
  ((lines.drop (i + 1)).findIdx? fun line => !line.isEmpty).map (i + 1 + ·)

/-- The shift of line `j`, when the shifts are those of the lines whose indentation counts. -/
def shiftAt? (lines : List StrippedLine) (shifts : List Shift) (j : Nat) : Option Shift :=
  if contentAt lines j then shifts[(lines.take j).countP StrippedLine.isContent]? else none

/-- The text that line `j` puts behind the line of code before it. -/
def delimiterBy (lines : List StrippedLine) (shifts : List Shift) (j : Nat) : String :=
  ((shiftAt? lines shifts j).map Shift.delimiter).getD ""

/-- The text behind line `i`, when the text ends with the given number of open levels. -/
def delimiterAt (lines : List StrippedLine) (shifts : List Shift) (openLevels i : Nat) : String :=
  if filledAt lines i then
    match nextFilled? lines i with
    | some j => delimiterBy lines shifts j
    | none => closers openLevels
  else ""

/-- All lines with their delimiters. -/
def batch (lines : List StrippedLine) (shifts : List Shift) (openLevels : Nat) : List String :=
  lines.mapIdx fun i line => line.text ++ delimiterAt lines shifts openLevels i

/-- Line `j` decides the text behind exactly one line, the last filled one before it, and that text
is the delimiter of its shift. -/
def DecidesOne (lines : List StrippedLine) (shifts : List Shift) (openLevels j : Nat) : Prop :=
  ∃ i shift, filledAt lines i = true ∧ nextFilled? lines i = some j ∧
    (∀ other, filledAt lines other = true → nextFilled? lines other = some j → other = i) ∧
    shiftAt? lines shifts j = some shift ∧
    delimiterAt lines shifts openLevels i = shift.delimiter ∧ shift.delimiter ≠ ""

/-- The widths of the lines whose indentation counts. -/
def contentWidths (lines : List StrippedLine) : List Nat :=
  (lines.filter StrippedLine.isContent).map StrippedLine.width

variable {line : StrippedLine} {lines : List StrippedLine} {shifts : List Shift}

/-- The shifts left for the lines behind a line. -/
private def shiftsBehind (line : StrippedLine) (shifts : List Shift) : List Shift :=
  if line.isContent then shifts.tail else shifts

theorem roles_cons (line : StrippedLine) (lines : List StrippedLine) (shifts : List Shift) :
    ∃ event, roles (line :: lines) shifts = event :: roles lines (shiftsBehind line shifts) ∧
      event.text = line.text ∧ event.isBlank = line.isEmpty ∧
      event.delimiter = if line.isContent then (shifts.headD .baseline).delimiter else "" := by
  cases empty : line.isEmpty with
  | true =>
    refine ⟨.blank line.text, ?_, rfl, rfl, ?_⟩
    · simp [roles, empty, shiftsBehind, StrippedLine.isContent]
    · simp [StrippedLine.isContent, empty, Event.delimiter]
  | false =>
    by_cases inside : 0 < line.depthAtStart
    · refine ⟨.nested line.text, ?_, rfl, rfl, ?_⟩
      · simp [roles, empty, inside, shiftsBehind, StrippedLine.isContent, Nat.ne_of_gt inside]
      · simp [StrippedLine.isContent, empty, Nat.ne_of_gt inside, Event.delimiter]
    · have outside : line.depthAtStart = 0 := by omega
      refine ⟨.content line.text (shifts.headD .baseline), ?_, rfl, rfl, ?_⟩
      · simp [roles, empty, outside, shiftsBehind, StrippedLine.isContent]
      · simp [StrippedLine.isContent, empty, outside, Event.delimiter]

theorem delimiterBy_succ (line : StrippedLine) (lines : List StrippedLine) (shifts : List Shift)
    (j : Nat) : delimiterBy (line :: lines) shifts (j + 1) =
      delimiterBy lines (shiftsBehind line shifts) j := by
  cases content : line.isContent <;>
    simp [delimiterBy, shiftAt?, contentAt, shiftsBehind, content]

theorem nextFilled?_succ (line : StrippedLine) (lines : List StrippedLine) (i : Nat) :
    nextFilled? (line :: lines) (i + 1) = (nextFilled? lines i).map (· + 1) := by
  simp only [nextFilled?, List.drop_succ_cons, Option.map_map]
  congr 1
  funext k
  simp only [Function.comp_apply]
  omega

theorem delimiterAt_succ (line : StrippedLine) (lines : List StrippedLine) (shifts : List Shift)
    (openLevels i : Nat) : delimiterAt (line :: lines) shifts openLevels (i + 1) =
      delimiterAt lines (shiftsBehind line shifts) openLevels i := by
  have same : filledAt (line :: lines) (i + 1) = filledAt lines i := by simp [filledAt]
  simp only [delimiterAt, same, nextFilled?_succ]
  cases nextFilled? lines i <;> simp [delimiterBy_succ]

/-- What decides the text behind a line is the first line behind it that is not empty. -/
theorem delimiterBefore_roles (openLevels : Nat)
    (enough : shifts.length = lines.countP StrippedLine.isContent) :
    delimiterBefore (closers openLevels) (roles lines shifts) =
      match lines.findIdx? fun line => !line.isEmpty with
      | some j => delimiterBy lines shifts j
      | none => closers openLevels := by
  induction lines generalizing shifts with
  | nil => simp [roles]
  | cons line lines ih =>
    obtain ⟨event, split, _, blank, delimiter⟩ := roles_cons line lines shifts
    rw [split, delimiterBefore_cons, blank, List.findIdx?_cons]
    cases empty : line.isEmpty with
    | true =>
      have noContent : line.isContent = false := by simp [StrippedLine.isContent, empty]
      have enough : (shiftsBehind line shifts).length = lines.countP StrippedLine.isContent := by
        simpa [shiftsBehind, noContent, List.countP_cons] using enough
      simp only [↓reduceIte, ih enough, Bool.not_true, Bool.false_eq_true]
      cases lines.findIdx? fun line => !line.isEmpty <;> simp [delimiterBy_succ]
    | false =>
      simp only [Bool.false_eq_true, ↓reduceIte, Bool.not_false, delimiter]
      cases content : line.isContent with
      | false => simp [delimiterBy, shiftAt?, contentAt, content]
      | true =>
        cases shifts with
        | nil => simp [content] at enough
        | cons shift shifts => simp [delimiterBy, shiftAt?, contentAt, content]

theorem delivered_roles (openLevels : Nat)
    (enough : shifts.length = lines.countP StrippedLine.isContent) :
    delivered (closers openLevels) (roles lines shifts) = batch lines shifts openLevels := by
  induction lines generalizing shifts with
  | nil => rfl
  | cons line lines ih =>
    obtain ⟨event, split, text, blank, _⟩ := roles_cons line lines shifts
    have enoughBehind :
        (shiftsBehind line shifts).length = lines.countP StrippedLine.isContent := by
      unfold shiftsBehind
      cases content : line.isContent <;> simp [content] at enough ⊢ <;> omega
    have head : (if event.isBlank then ""
        else delimiterBefore (closers openLevels) (roles lines (shiftsBehind line shifts))) =
        delimiterAt (line :: lines) shifts openLevels 0 := by
      rw [blank, delimiterBefore_roles openLevels enoughBehind]
      cases empty : line.isEmpty with
      | true => simp [delimiterAt, filledAt, empty]
      | false =>
        simp only [Bool.false_eq_true, ↓reduceIte, delimiterAt, filledAt, nextFilled?]
        cases found : lines.findIdx? fun line => !line.isEmpty with
        | none => simp [empty, found]
        | some j => simp [empty, found, Nat.add_comm 1 j, delimiterBy_succ]
    rw [split, delivered, head, text, ih enoughBehind, batch, batch, List.mapIdx_cons]
    congr 1
    apply List.ext_getElem?
    intro i
    simp [delimiterAt_succ]

theorem nextFilled?_eq_some_iff : nextFilled? lines i = some j ↔
    i < j ∧ filledAt lines j = true ∧ ∀ k, i < k → k < j → filledAt lines k = false := by
  have behind (k : Nat) (bound : k < (lines.drop (i + 1)).length) :
      filledAt lines (i + 1 + k) = !((lines.drop (i + 1))[k]).isEmpty := by
    have known : i + 1 + k < lines.length := by
      rw [List.length_drop] at bound
      omega
    simp [filledAt, List.getElem?_eq_getElem known]
  rw [nextFilled?, Option.map_eq_some_iff]
  constructor
  · rintro ⟨k, found, rfl⟩
    obtain ⟨bound, filled, before⟩ := List.findIdx?_eq_some_iff_getElem.mp found
    refine ⟨by omega, by rw [behind k bound, filled], ?_⟩
    intro m above below
    obtain ⟨gap, rfl⟩ : ∃ gap, m = i + 1 + gap := ⟨m - (i + 1), by omega⟩
    rw [behind gap (by omega)]
    simpa using before gap (by omega)
  · rintro ⟨later, filled, between⟩
    obtain ⟨k, rfl⟩ : ∃ k, j = i + 1 + k := ⟨j - (i + 1), by omega⟩
    have bound : k < (lines.drop (i + 1)).length := by
      cases known : lines[i + 1 + k]? with
      | none => simp [filledAt, known] at filled
      | some line =>
        have := (List.getElem?_eq_some_iff.mp known).1
        rw [List.length_drop]
        omega
    refine ⟨k, List.findIdx?_eq_some_iff_getElem.mpr ⟨bound, by rw [← behind k bound, filled], ?_⟩, rfl⟩
    intro m below
    have empty := between (i + 1 + m) (by omega) (by omega)
    rw [behind m (by omega)] at empty
    simpa using empty

/-- A line that is not the first one to be filled has exactly one line before it that it decides. -/
theorem decided_unique (filled : filledAt lines j = true)
    (earlier : ∃ k < j, filledAt lines k = true) :
    ∃ i, filledAt lines i = true ∧ nextFilled? lines i = some j ∧
      ∀ other, filledAt lines other = true → nextFilled? lines other = some j → other = i := by
  obtain ⟨k, before, filledBefore⟩ := earlier
  let last := Nat.findGreatest (fun m => filledAt lines m = true) (j - 1)
  have isFilled : filledAt lines last = true :=
    Nat.findGreatest_spec (P := fun m => filledAt lines m = true) (by omega : k ≤ j - 1) filledBefore
  have bound : last ≤ j - 1 := Nat.findGreatest_le (j - 1)
  have between : ∀ m, last < m → m < j → filledAt lines m = false := by
    intro m above below
    have := Nat.findGreatest_is_greatest (P := fun m => filledAt lines m = true) above (by omega)
    simpa using this
  refine ⟨last, isFilled, nextFilled?_eq_some_iff.mpr ⟨by omega, filled, between⟩, ?_⟩
  intro other otherFilled next
  obtain ⟨otherBefore, _, otherBetween⟩ := nextFilled?_eq_some_iff.mp next
  rcases Nat.lt_trichotomy other last with below | same | above
  · have := otherBetween last below (by omega)
    simp [isFilled] at this
  · exact same
  · have := between other above otherBefore
    simp [otherFilled] at this

/-- Only the first line whose indentation counts has none before it. -/
theorem observeAll_no_baseline {levels final : Levels} {widths : List Nat}
    (passed : levels.observeAll widths = .ok (shifts, final)) {k : Nat} {shift : Shift}
    (later : levels.anchored = true ∨ 0 < k) (found : shifts[k]? = some shift) :
    shift ≠ .baseline := by
  induction widths generalizing levels shifts k with
  | nil => simp_all [Levels.observeAll]
  | cons width widths ih =>
    unfold Levels.observeAll at passed
    split at passed
    · simp at passed
    rename_i first next observed
    split at passed
    · simp at passed
    rename_i rest last observedRest
    simp only [Except.ok.injEq, Prod.mk.injEq] at passed
    obtain ⟨rfl, rfl⟩ := passed
    have here := Levels.observe_ok_iff.mp observed
    cases k with
    | zero =>
      simp only [List.getElem?_cons_zero, Option.some.injEq] at found
      rw [← found]
      exact here.ne_baseline (by simpa using later)
    | succ k => exact ih observedRest (.inl here.anchored) (by simpa using found)

theorem delimiter_ne_empty {shift : Shift} (later : shift ≠ .baseline) : shift.delimiter ≠ "" := by
  cases shift with
  | baseline => exact absurd rfl later
  | same => decide
  | indent => decide
  | dedent count =>
    intro empty
    have := congrArg String.toList empty
    simp [Shift.delimiter] at this

theorem contentAt_iff :
    contentAt lines j = true ↔ ∃ line, lines[j]? = some line ∧ line.isContent = true := by
  unfold contentAt
  cases lines[j]? <;> simp

theorem filledAt_of_contentAt (content : contentAt lines j = true) : filledAt lines j = true := by
  obtain ⟨line, found, isContent⟩ := contentAt_iff.mp content
  simp_all [filledAt, StrippedLine.isContent]

/-- How many lines before line `j` have a shift; if line `j` has one, it is the next. -/
theorem countP_take_lt (content : contentAt lines j = true) :
    (lines.take j).countP StrippedLine.isContent < lines.countP StrippedLine.isContent := by
  obtain ⟨line, found, isContent⟩ := contentAt_iff.mp content
  obtain ⟨bound, same⟩ := List.getElem?_eq_some_iff.mp found
  have split := List.take_append_drop j lines
  rw [List.drop_eq_getElem_cons bound, same] at split
  conv => rhs; rw [← split]
  simp [isContent]

theorem countP_take_pos (earlier : ∃ k < j, contentAt lines k = true) :
    0 < (lines.take j).countP StrippedLine.isContent := by
  obtain ⟨k, before, content⟩ := earlier
  obtain ⟨line, found, isContent⟩ := contentAt_iff.mp content
  have member : line ∈ lines.take j :=
    List.mem_of_getElem? (by rw [List.getElem?_take_of_lt before, found])
  exact List.countP_pos_iff.mpr ⟨line, member, isContent⟩

theorem length_shifts {levels final : Levels}
    (observed : levels.observeAll (contentWidths lines) = .ok (shifts, final)) :
    shifts.length = lines.countP StrippedLine.isContent := by
  rw [Levels.length_observeAll observed, contentWidths, List.length_map, List.countP_eq_length_filter]

/-- Each line whose indentation counts, the first one apart, decides one delimiter. -/
theorem decidesOne_of_content {levels final : Levels} (openLevels : Nat)
    (observed : levels.observeAll (contentWidths lines) = .ok (shifts, final))
    (content : contentAt lines j = true) (earlier : ∃ k < j, contentAt lines k = true) :
    DecidesOne lines shifts openLevels j := by
  have filledEarlier : ∃ k < j, filledAt lines k = true := by
    obtain ⟨k, before, contentBefore⟩ := earlier
    exact ⟨k, before, filledAt_of_contentAt contentBefore⟩
  obtain ⟨i, filled, next, unique⟩ := decided_unique (filledAt_of_contentAt content) filledEarlier
  have below : (lines.take j).countP StrippedLine.isContent < shifts.length := by
    rw [length_shifts observed]
    exact countP_take_lt content
  have known : shiftAt? lines shifts j =
      some shifts[(lines.take j).countP StrippedLine.isContent] := by
    simp [shiftAt?, content, List.getElem?_eq_getElem below]
  refine ⟨i, _, filled, next, unique, known, ?_, ?_⟩
  · simp [delimiterAt, filled, next, delimiterBy, known]
  · exact delimiter_ne_empty (observeAll_no_baseline observed (.inr (countP_take_pos earlier))
      (List.getElem?_eq_getElem below))

/-- A run without a fault delivers every line, stripped of its comments, in its place, and behind it
what the next filled line decides. -/
theorem processLines_eq_batch (options : Options) (lines : List String)
    (passed : (processLines options lines).fault? = none) :
    ∃ readings carry stripped shifts levels,
      ({} : Carry).readLines options.tail 1 lines = .ok (readings, carry) ∧
      stripped = readings.map Reading.stripped ∧ stripped.length = lines.length ∧
      ({} : Levels).observeAll (contentWidths stripped) = .ok (shifts, levels) ∧
      (processLines options lines).lines = batch stripped shifts levels.depth ∧
      ∀ j, contentAt stripped j = true → (∃ k < j, contentAt stripped k = true) →
        DecidesOne stripped shifts levels.depth j := by
  obtain ⟨events, final, trace, _, output⟩ := trace_of_processLines passed
  obtain ⟨readings, shifts, read, observed, same⟩ := trace.readings
  refine ⟨readings, final.carry, _, shifts, final.levels, read, rfl, ?_, observed, ?_, ?_⟩
  · rw [List.length_map, Carry.length_readLines read]
  · rw [output, same, delivered_roles final.levels.depth (length_shifts observed)]
  · intro j content earlier
    exact decidesOne_of_content final.levels.depth observed content earlier

theorem processLines_eq_batch_mixed :
    (processLines {} ["a \x7b", "  x \x7d", "", "  b // note", "    c", "d"]).fault? = none ∧
    ∃ readings carry stripped shifts levels,
      ({} : Carry).readLines .trim 1 ["a \x7b", "  x \x7d", "", "  b // note", "    c", "d"] =
        .ok (readings, carry) ∧
      stripped = readings.map Reading.stripped ∧ stripped.length = 6 ∧
      ({} : Levels).observeAll (contentWidths stripped) = .ok (shifts, levels) ∧
      (processLines {} ["a \x7b", "  x \x7d", "", "  b // note", "    c", "d"]).lines =
        batch stripped shifts levels.depth ∧
      ∀ j, contentAt stripped j = true → (∃ k < j, contentAt stripped k = true) →
        DecidesOne stripped shifts levels.depth j :=
  have passed :
      (processLines {} ["a \x7b", "  x \x7d", "", "  b // note", "    c", "d"]).fault? = none := by
    decide +kernel
  ⟨passed, processLines_eq_batch {} _ passed⟩

end Offside
