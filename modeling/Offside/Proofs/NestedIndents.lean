import Offside.Proofs.BracketWord
import Offside.Proofs.Course
import Offside.Proofs.Indents

/-! Indentation inside explicit brackets. A line there is accepted or rejected, and decides what is
behind it, as it would without the spaces and tabs in front of it (`Tracker.step_indent`). These
only come out where they stood (`processLines_indent`), so that any others in their place do
(`nested_indentation_is_cosmetic`). -/

namespace Offside

namespace Event

/-- The role of a line with more text in front of it. -/
def prepend (front : String) : Event → Event
  | blank text => blank (front ++ text)
  | nested text => nested (front ++ text)
  | content text shift => content (front ++ text) shift

variable {front : String} {event : Event}

@[simp] theorem text_prepend : (event.prepend front).text = front ++ event.text := by
  cases event <;> rfl

@[simp] theorem bare_prepend : (event.prepend front).bare = event.bare := by
  cases event <;> rfl

@[simp] theorem isBlank_prepend : (event.prepend front).isBlank = event.isBlank := by
  cases event <;> rfl

end Event

theorem map_bare_modify (front : String) (events : List Event) (i : Nat) :
    (events.modify i (Event.prepend front)).map Event.bare = events.map Event.bare := by
  induction events generalizing i with
  | nil => simp
  | cons event events ih => cases i <;> simp [ih]

theorem delivered_modify (closing front : String) (events : List Event) (i : Nat) :
    delivered closing (events.modify i (Event.prepend front)) =
      (delivered closing events).modify i (front ++ ·) := by
  induction events generalizing i with
  | nil => simp [delivered]
  | cons event events ih =>
    cases i with
    | zero => simp [delivered, String.append_assoc]
    | succ i =>
      have same : delimiterBefore closing (events.modify i (Event.prepend front)) =
          delimiterBefore closing events := by
        rw [← delimiterBefore_bare, map_bare_modify, delimiterBefore_bare]
      simp [delivered, ih, same]

namespace Holdback

/-- Text in front of a line comes out in front of it. -/
theorem lines_close_modify (ending : Except Fault Nat) (front : String) (events : List Event)
    (i : Nat) :
    ((takeAll (events.modify i (Event.prepend front))).close ending).lines =
      ((takeAll events).close ending).lines.modify i (front ++ ·) := by
  have long := lines_close_prefix ending (events.modify i (Event.prepend front))
  have short := lines_close_prefix ending events
  have length := length_lines_close_congr ending (map_bare_modify front events i)
  rw [List.prefix_iff_eq_take.mp long, length, delivered_modify, List.take_modify,
    ← List.prefix_iff_eq_take.mp short]

/-- A line that is answered is what remains of the line with that number, and a delimiter. -/
theorem getElem?_lines_close {ending : Except Fault Nat} {events : List Event} {i : Nat}
    (answered : ((takeAll events).close ending).lines[i]? = some line) :
    ∃ (event : Event) (delimiter : String), events[i]? = some event ∧ IsDelimiter delimiter ∧
      line = event.text ++ delimiter := by
  have front := lines_close_prefix ending events
  obtain ⟨event, found, same⟩ := event_of_prefix front answered
  refine ⟨event, _, found, ?_, same⟩
  unfold delimiterBehind
  split
  · cases ending <;> exact isDelimiter_delimiterBefore _ _
  · exact .none

end Holdback

namespace Carry

variable {carry after : Carry} {tail : CommentTail} {indent rest : String}

theorem depthAtStart_of_strip {stripped : StrippedLine}
    (read : carry.strip tail number line = (.ok stripped, after)) :
    stripped.depthAtStart = carry.nesting.depth := by
  obtain ⟨-, -, -, -, same⟩ := readLine_ok (readLine_of_strip read)
  exact congrArg StrippedLine.depthAtStart same

/-- Spaces and tabs in front of a line that starts in code stand in front of what remains of it, and
change nothing else. -/
theorem strip_indent (gaps : IsPadding indent.toList) (code : carry.mode = .code)
    (tail : CommentTail) (number : Nat) (rest : String) :
    carry.strip tail number (indent ++ rest) =
      ((carry.strip tail number rest).1.map (StrippedLine.prepend indent),
        (carry.strip tail number rest).2) := by
  have blanks : ∀ c ∈ indent.toList, isBlank c = true := fun _ member => gaps.isBlank member
  have all : indent.toList.all (fun c => c == ' ' || c == '\t') = true :=
    List.all_eq_true.mpr fun c member => by simpa using gaps c member
  refine strip_append blanks code ?_ tail number
  rw [opensFirst_append blanks, all, Bool.true_and]

theorem text_of_indent (gaps : IsPadding indent.toList) (code : carry.mode = .code)
    (remains : (carry.readLine tail number rest).map (·.stripped.text) = .ok stripped) :
    (carry.readLine tail number (indent ++ rest)).map (·.stripped.text) =
      .ok (indent ++ stripped) := by
  unfold readLine at remains ⊢
  rw [strip_indent gaps code]
  cases read : carry.strip tail number rest with
  | mk result after =>
    rw [read] at remains
    cases result with
    | error fault => simp [Except.map] at remains
    | ok plain =>
      cases remains
      rfl

end Carry

namespace Tracker

variable {options : Options} {tracker : Tracker} {indent rest : String} {lines : List String}
variable {events : List Event} {ending : Except Fault Nat}

/-- Inside brackets the width of a line is not looked at. -/
theorem classify_prepend {line : StrippedLine} (gaps : IsPadding indent.toList)
    (inside : 0 < line.depthAtStart) (options : Options) (tracker : Tracker) :
    classify options (line.prepend indent) tracker =
      ((classify options line tracker).1.map (Event.prepend indent),
        (classify options line tracker).2) := by
  have blanks : indent.toList.all isBlank = true :=
    List.all_eq_true.mpr fun _ member => gaps.isBlank member
  have empty : (line.prepend indent).isEmpty = line.isEmpty := by
    simp [StrippedLine.isEmpty, StrippedLine.prepend, blanks]
  have depth : (line.prepend indent).depthAtStart = line.depthAtStart := rfl
  unfold classify
  rw [empty, depth, if_pos inside, if_pos inside]
  split <;> rfl

/-- Spaces and tabs in front of a line inside brackets stay in front of it, and decide nothing. -/
theorem step_indent (gaps : IsPadding indent.toList) (code : tracker.carry.mode = .code)
    (inside : 0 < tracker.carry.nesting.depth) (options : Options) (number : Nat) (rest : String) :
    tracker.step options number (indent ++ rest) =
      ((tracker.step options number rest).1.map (Event.prepend indent),
        (tracker.step options number rest).2) := by
  unfold step
  rw [Carry.strip_indent gaps code]
  cases read : tracker.carry.strip options.tail number rest with
  | mk result after =>
    cases result with
    | error fault => rfl
    | ok stripped =>
      have inside : 0 < stripped.depthAtStart := by
        rwa [Carry.depthAtStart_of_strip read]
      exact classify_prepend gaps inside options _

theorem Course.indented (gaps : IsPadding indent.toList) (code : tracker.carry.mode = .code)
    (inside : 0 < tracker.carry.nesting.depth)
    (course : Course options tracker (rest :: lines) events ending) :
    Course options tracker ((indent ++ rest) :: lines)
      (events.modify 0 (Event.prepend indent)) ending := by
  have step := step_indent gaps code inside options (tracker.lastLine + 1) rest
  cases course with
  | rejected _ rejects =>
    rw [rejects] at step
    exact .rejected lines (congrArg Prod.fst step)
  | accepted passed behind =>
    rw [passed] at step
    exact .accepted step behind

/-- The first line of a run remains as it was stripped. -/
theorem Course.text_of_first {event : Event}
    (course : Course options tracker (rest :: lines) events ending)
    (first : events[0]? = some event) :
    (tracker.carry.readLine options.tail (tracker.lastLine + 1) rest).map (·.stripped.text) =
      .ok event.text := by
  cases course with
  | rejected => simp at first
  | accepted passed =>
    obtain ⟨reading, read, -, -, role⟩ := reading_of_step passed
    cases first
    rw [read, role.text_eq]
    rfl

end Tracker

section Runs

variable {options : Options} {tracker : Tracker} {before : List String} {events : List Event}
variable {indent other rest line : String} {behind : List String}

/-- What a run answers with spaces and tabs in front of a line inside brackets. -/
theorem processLines_indent (trace : Tracker.Trace options {} before events tracker)
    (code : tracker.carry.mode = .code) (inside : 0 < tracker.carry.nesting.depth)
    (gaps : IsPadding indent.toList) (rest : String) (behind : List String) :
    processLines options (before ++ (indent ++ rest) :: behind) =
      { processLines options (before ++ rest :: behind) with
        lines := (processLines options (before ++ rest :: behind)).lines.modify before.length
          (indent ++ ·) } := by
  obtain ⟨more, ending, course⟩ := Tracker.exists_course options tracker (rest :: behind)
  have place : events.length = before.length := trace.length_events
  have modified : events ++ more.modify 0 (Event.prepend indent) =
      (events ++ more).modify before.length (Event.prepend indent) := by
    rw [← place]
    exact (List.modifyTailIdx_add _ 0 events more).symm
  have indented := trace.course (course.indented gaps code inside)
  rw [modified] at indented
  rw [processLines_of_course indented, processLines_of_course (trace.course course),
    ← Holdback.lines_close_modify]
  cases ending <;> rfl

/-- A line that is answered is what remains of it, and a delimiter. -/
theorem answered_behind (trace : Tracker.Trace options {} before events tracker)
    (answered :
      (processLines options (before ++ rest :: behind)).lines[before.length]? = some line) :
    ∃ stripped delimiter, IsDelimiter delimiter ∧
      (tracker.carry.readLine options.tail (before.length + 1) rest).map (·.stripped.text) =
        .ok stripped ∧
      line = stripped ++ delimiter := by
  obtain ⟨more, ending, course⟩ := Tracker.exists_course options tracker (rest :: behind)
  rw [processLines_of_course (trace.course course)] at answered
  obtain ⟨event, delimiter, found, isDelimiter, same⟩ := Holdback.getElem?_lines_close answered
  have first : more[0]? = some event := by
    rwa [← trace.length_events, List.getElem?_append_right (Nat.le_refl _), Nat.sub_self] at found
  have remains := course.text_of_first first
  rw [trace.lastLine_start] at remains
  exact ⟨event.text, delimiter, isDelimiter, remains, same⟩

/-- Inside brackets indentation carries no meaning. When the spaces and tabs in front of a line that
starts in code there are replaced by others, the run meets the same fault, or none as before, and
answers the same lines, but for that one line: it comes out with the new spaces and tabs, and with
the same text and delimiter behind them. -/
theorem nested_indentation_is_cosmetic (trace : Tracker.Trace options {} before events tracker)
    (code : tracker.carry.mode = .code) (inside : 0 < tracker.carry.nesting.depth)
    (gaps : IsPadding indent.toList) (gapsToo : IsPadding other.toList)
    (rest : String) (behind : List String) :
    let original := processLines options (before ++ (indent ++ rest) :: behind)
    let changed := processLines options (before ++ (other ++ rest) :: behind)
    let text (line : String) :=
      (tracker.carry.readLine options.tail (before.length + 1) line).map (·.stripped.text)
    changed.fault? = original.fault? ∧ changed.lines.length = original.lines.length ∧
    (∀ i ≠ before.length, changed.lines[i]? = original.lines[i]?) ∧
    ∀ line, original.lines[before.length]? = some line → ∃ stripped delimiter,
      IsDelimiter delimiter ∧
      text (indent ++ rest) = .ok (indent ++ stripped) ∧ line = indent ++ stripped ++ delimiter ∧
      text (other ++ rest) = .ok (other ++ stripped) ∧
      changed.lines[before.length]? = some (other ++ stripped ++ delimiter) := by
  intro original changed text
  let plain := processLines options (before ++ rest :: behind)
  have originalRun : original =
      { plain with lines := plain.lines.modify before.length (indent ++ ·) } :=
    processLines_indent trace code inside gaps rest behind
  have changedRun : changed =
      { plain with lines := plain.lines.modify before.length (other ++ ·) } :=
    processLines_indent trace code inside gapsToo rest behind
  rw [originalRun, changedRun]
  refine ⟨rfl, by simp, fun i elsewhere => ?_, fun line answered => ?_⟩
  · simp [List.getElem?_modify_ne _ _ (Ne.symm elsewhere)]
  · rw [List.getElem?_modify_eq, Option.map_eq_map, Option.map_eq_some_iff] at answered
    obtain ⟨plainLine, answered, rfl⟩ := answered
    obtain ⟨stripped, delimiter, isDelimiter, remains, rfl⟩ := answered_behind trace answered
    refine ⟨stripped, delimiter, isDelimiter, Carry.text_of_indent gaps code remains,
      String.append_assoc.symm, Carry.text_of_indent gapsToo code remains, ?_⟩
    rw [List.getElem?_modify_eq, answered, String.append_assoc]
    rfl

/-- A line that is led by a comment and closes the bracket, in front of a line whose indentation
counts. -/
theorem nested_indentation_is_cosmetic_closing :
    ∃ events tracker, Tracker.Trace {} {} ["f \x7b"] events tracker ∧
      tracker.carry.mode = .code ∧ 0 < tracker.carry.nesting.depth ∧
      let changed := processLines {} (["f \x7b"] ++ ("" ++ "/* a */ g \x7d h") :: ["k"])
      processLines {} (["f \x7b"] ++ (" \t" ++ "/* a */ g \x7d h") :: ["k"]) =
        ⟨["f \x7b", " \t        g \x7d h;", "k"], none⟩ ∧
      changed.fault? = none ∧ changed.lines.length = 3 ∧
      (∀ i ≠ 1, changed.lines[i]? = ["f \x7b", " \t        g \x7d h;", "k"][i]?) ∧
      ∃ stripped delimiter, IsDelimiter delimiter ∧
        " \t        g \x7d h;" = " \t" ++ stripped ++ delimiter ∧
        changed.lines[1]? = some ("" ++ stripped ++ delimiter) := by
  obtain ⟨events, tracker, trace, code, inside⟩ : ∃ events tracker,
      Tracker.Trace {} {} ["f \x7b"] events tracker ∧
        tracker.carry.mode = .code ∧ 0 < tracker.carry.nesting.depth :=
    ⟨_, _, .step rfl .done, rfl, Nat.one_pos⟩
  have original : processLines {} (["f \x7b"] ++ (" \t" ++ "/* a */ g \x7d h") :: ["k"]) =
      ⟨["f \x7b", " \t        g \x7d h;", "k"], none⟩ := by
    decide +kernel
  have gaps : IsPadding " \t".toList := by simp [IsPadding]
  have noGaps : IsPadding "".toList := by simp [IsPadding]
  obtain ⟨fault, length, others, own⟩ :=
    nested_indentation_is_cosmetic trace code inside gaps noGaps "/* a */ g \x7d h" ["k"]
  rw [original] at fault length others own
  obtain ⟨stripped, delimiter, isDelimiter, -, same, -, given⟩ := own _ rfl
  exact ⟨events, tracker, trace, code, inside, original, fault, length, others, stripped, delimiter,
    isDelimiter, same, given⟩

end Runs

end Offside
