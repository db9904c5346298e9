import Offside.Proofs.Brackets
import Offside.Proofs.Foresight
import Offside.Proofs.Glyphs
import Offside.Proofs.Observation
import Offside.Proofs.Readings

/-! The brackets of a run: those of the code, line by line, with those that are put behind each
line. The two kinds never cross (`wellNested_processLines`). -/

namespace Offside

/-- The bracket that a character behind a line is. -/
def insertedBracket? : Char → Option Bracket
  | '{' => some ⟨.inserted, true⟩
  | '}' => some ⟨.inserted, false⟩
  | _ => none

/-- The brackets in a text that is put behind a line. -/
def insertedBrackets (text : List Char) : List Bracket :=
  text.filterMap insertedBracket?

/-- The brackets in the code of a line. -/
def Marking.writtenBrackets (marking : Marking) : List Bracket :=
  (marking.segments.filterMap Segment.bracket?).map (⟨.written, ·⟩)

namespace Reading

/-- What the output has behind what remains of the line. -/
def appended (reading : Reading) (output : String) : List Char :=
  output.toList.drop reading.stripped.text.toList.length

/-- The brackets of the line and of what is behind it. -/
def brackets (reading : Reading) (output : String) : List Bracket :=
  reading.marking.writtenBrackets ++ insertedBrackets (reading.appended output)

end Reading

/-- All brackets of a run. -/
def bracketWord (readings : List Reading) (outputs : List String) : List Bracket :=
  (List.zipWith Reading.brackets readings outputs).flatten

/-- The number of open levels, once the next line of code is read; at the end of the text there are
none. -/
def levelsAhead (depth : Nat) (events : List Event) : Nat :=
  match events.find? fun event => !event.isBlank with
  | some (.content _ .indent) => depth + 1
  | some (.content _ (.dedent count)) => depth - count
  | some _ => depth
  | none => 0

theorem levelsAhead_cons (depth : Nat) (event : Event) (events : List Event) :
    levelsAhead depth (event :: events) =
      if event.isBlank then levelsAhead depth events else levelsAhead depth [event] := by
  cases blank : event.isBlank <;> simp [levelsAhead, blank]

theorem insertedBrackets_append (first second : List Char) :
    insertedBrackets (first ++ second) = insertedBrackets first ++ insertedBrackets second :=
  List.filterMap_append

theorem insertedBrackets_replicate (count : Nat) :
    insertedBrackets (List.replicate count '}') = List.replicate count ⟨.inserted, false⟩ := by
  induction count with
  | zero => rfl
  | succ count ih =>
    rw [List.replicate_succ, List.replicate_succ, ← ih]
    rfl

/-- The levels that an accepted line opens and closes are those that its delimiter opens and
closes. -/
theorem Levels.Observed.follow_delimiter {levels next : Levels}
    (observed : Observed levels width shift next) (text : String) :
    Bracket.follow (List.replicate levels.depth .inserted)
        (insertedBrackets shift.delimiter.toList) = some (List.replicate next.depth .inserted) ∧
      levelsAhead levels.depth [.content text shift] = next.depth := by
  cases observed with
  | baseline => exact ⟨rfl, rfl⟩
  | same => exact ⟨rfl, rfl⟩
  | indent => exact ⟨rfl, rfl⟩
  | dedent =>
    have fewer : (levels.closeWider width).depth ≤ levels.depth :=
      (List.dropWhile_sublist _).length_le
    refine ⟨?_, ?_⟩
    · have split : List.replicate levels.depth Origin.inserted =
          List.replicate (levels.depth - (levels.closeWider width).depth) .inserted ++
            List.replicate (levels.closeWider width).depth .inserted := by
        rw [List.replicate_append_replicate, Nat.sub_add_cancel fewer]
      have closed : insertedBrackets (Shift.dedent
          (levels.depth - (levels.closeWider width).depth)).delimiter.toList =
          List.replicate (levels.depth - (levels.closeWider width).depth) ⟨.inserted, false⟩ := by
        simp only [Shift.delimiter, String.toList_append, String.toList_ofList,
          insertedBrackets_append, insertedBrackets_replicate]
        exact List.append_nil _
      rw [closed, split, Bracket.follow_closing]
    · simp only [levelsAhead, Event.isBlank, List.find?, Bool.not_false]
      omega

theorem Nesting.pop_ok {nesting next : Nesting} (popped : nesting.pop = .ok next) :
    nesting.depth = next.depth + 1 := by
  unfold pop at popped
  split at popped
  · simp at popped
  · rename_i depth same
    cases popped
    exact same

/-- The brackets of the code open and close what the nesting counts. -/
theorem follow_written {nesting next : Nesting} {segments : List Segment}
    (followed : Segment.follow nesting segments = .ok next) (below : List Origin) :
    Bracket.follow (List.replicate nesting.depth .written ++ below)
        ((segments.filterMap Segment.bracket?).map (⟨.written, ·⟩)) =
      some (List.replicate next.depth .written ++ below) := by
  fun_induction Segment.follow nesting segments with
  | case1 nesting =>
    cases followed
    rfl
  | case2 nesting rest ih =>
    simpa [Segment.bracket?, Bracket.follow, Nesting.push, List.replicate_succ] using ih followed
  | case3 nesting rest inner popped ih =>
    rw [Nesting.pop_ok popped]
    simpa [Segment.bracket?, Bracket.follow, List.replicate_succ] using ih followed
  | case4 => simp at followed
  | case5 nesting segment rest noOpen noClose ih =>
    have none : segment.bracket? = none := by
      cases segment <;> simp_all [Segment.bracket?]
    simpa [none] using ih followed

/-- What remains of a line is what remains of its segments, without those of a comment at its end;
nothing at all may remain of a line without code. -/
theorem Marking.shown_cases (tail : CommentTail) (carried : Bool) (marking : Marking) :
    (marking.shown tail carried = [] ∧ carried = true ∧ marking.hasCode = false) ∨
      ∃ front back, marking.segments = front ++ back ∧
        (∀ segment ∈ back, segment.isBlockComment = true) ∧
        marking.shown tail carried = front.flatMap Segment.shown := by
  have whole : marking.padded = marking.segments.flatMap Segment.shown := rfl
  cases tail with
  | pad => exact .inr ⟨marking.segments, [], by simp, by simp, whole⟩
  | trim =>
    unfold shown trimmed
    dsimp only
    split
    · rename_i dropped
      exact .inl ⟨rfl, by simpa using dropped⟩
    split
    · obtain ⟨back, split, comment⟩ := Segment.split_dropTrailingComment marking.segments
      exact .inr ⟨_, back, split, comment, rfl⟩
    · exact .inr ⟨marking.segments, [], by simp, by simp, whole⟩

theorem brackets_of_noCode {marking : Marking} (noCode : marking.hasCode = false) :
    marking.segments.filterMap Segment.bracket? = [] := by
  rw [List.filterMap_eq_nil_iff]
  intro segment member
  have := List.any_eq_false.mp noCode segment member
  cases segment <;> simp_all [Segment.isCode, Segment.bracket?]

theorem brackets_of_isBlockComment {segments : List Segment}
    (comment : ∀ segment ∈ segments, segment.isBlockComment = true) :
    segments.filterMap Segment.bracket? = [] := by
  rw [List.filterMap_eq_nil_iff]
  intro segment member
  have := comment segment member
  cases segment <;> simp_all [Segment.isBlockComment, Segment.bracket?]

/-- A line that is empty has no brackets. -/
theorem brackets_of_isEmpty {carry : Carry} {line : String} {reading : Reading}
    (read : carry.readLine tail number line = .ok reading)
    (empty : reading.stripped.isEmpty = true) :
    reading.marking.segments.filterMap Segment.bracket? = [] := by
  obtain ⟨_, _, _, _, stripped⟩ := Carry.readLine_ok read
  rw [stripped, StrippedLine.isEmpty, String.toList_ofList, List.all_eq_true] at empty
  rcases reading.marking.shown_cases tail carry.mode.inBlockComment with
    ⟨_, _, noCode⟩ | ⟨front, back, split, comment, same⟩
  · exact brackets_of_noCode noCode
  · rw [split, List.filterMap_append, brackets_of_isBlockComment comment, List.append_nil,
      List.filterMap_eq_nil_iff]
    intro segment member
    have blank (c : Char) (part : c ∈ segment.shown) : isBlank c = true :=
      empty c (by rw [same]; exact List.mem_flatMap.mpr ⟨segment, member, part⟩)
    cases segment with
    | openBrace => exact absurd (blank '{' (by simp [Segment.shown])) (by decide)
    | closeBrace => exact absurd (blank '}' (by simp [Segment.shown])) (by decide)
    | _ => rfl

/-- An empty line leaves the brackets alone. -/
theorem depth_of_isEmpty {carry : Carry} {line : String} {reading : Reading}
    (read : carry.readLine tail number line = .ok reading)
    (empty : reading.stripped.isEmpty = true) :
    reading.after.nesting.depth = carry.nesting.depth := by
  obtain ⟨_, followed, _⟩ := Carry.readLine_ok read
  have same := follow_written followed []
  rw [brackets_of_isEmpty read empty] at same
  simpa [Bracket.follow, eq_comm] using congrArg (Option.map List.length) same

/-- A text that a run puts behind a line. -/
inductive IsDelimiter : String → Prop where
  | none : IsDelimiter ""
  | shift (shift : Shift) : IsDelimiter shift.delimiter
  | closing (levels : Nat) : IsDelimiter (closers levels)

theorem isDelimiter_delimiterBefore (levels : Nat) (events : List Event) :
    IsDelimiter (delimiterBefore (closers levels) events) := by
  unfold delimiterBefore
  split
  · rename_i event _
    cases event with
    | content text shift => exact .shift shift
    | _ => exact .none
  · exact .closing levels

/-- The line of the output that belongs to a line. -/
def Delivers (reading : Reading) (output : String) : Prop :=
  ∃ delimiter, IsDelimiter delimiter ∧ output = reading.stripped.text ++ delimiter

theorem Reading.appended_append (reading : Reading) (text : String) :
    reading.appended (reading.stripped.text ++ text) = text.toList := by
  simp [appended]

theorem bracketWord_cons (reading : Reading) (readings : List Reading) (output : String)
    (outputs : List String) :
    bracketWord (reading :: readings) (output :: outputs) =
      reading.brackets output ++ bracketWord readings outputs := rfl

namespace Tracker

variable {options : Options} {tracker next final : Tracker} {lines : List String}
variable {events : List Event}

theorem Role.levelsAhead_eq (role : Role options line tracker event next)
    (filled : event.isBlank = false) :
    levelsAhead tracker.levels.depth [event] = next.levels.depth := by
  cases role with
  | blank empty => simp [Event.isBlank] at filled
  | nested filled inside => rfl
  | content filled outside placed observed =>
    exact ((Levels.observe_ok_iff.mp observed).follow_delimiter line.text).2

/-- The delimiter of the line before, if it has one, stands where no bracket of the code is open, and
takes the levels to those of the next line of code. -/
theorem Trace.follow_delimiterBefore (trace : Trace options tracker lines events final)
    (closed : final.carry.nesting.depth = 0) :
    Bracket.follow
        (List.replicate tracker.carry.nesting.depth .written ++
          List.replicate tracker.levels.depth .inserted)
        (insertedBrackets (delimiterBefore (closers final.levels.depth) events).toList) =
      some (List.replicate tracker.carry.nesting.depth .written ++
        List.replicate (levelsAhead tracker.levels.depth events) .inserted) := by
  induction trace with
  | @done tracker =>
    have closing := Bracket.follow_closing .inserted tracker.levels.depth []
    rw [List.append_nil] at closing
    rw [closed, delimiterBefore_nil, closers, String.toList_ofList, insertedBrackets_replicate]
    exact closing
  | step passed rest ih =>
    obtain ⟨reading, read, carried, _, role⟩ := reading_of_step passed
    rw [levelsAhead_cons, delimiterBefore_cons]
    cases role with
    | blank empty =>
      have ahead := ih closed
      simp only [depth_of_isEmpty read empty] at ahead
      exact ahead
    | nested filled inside => rfl
    | content filled outside placed observed =>
      obtain ⟨_, _, _, _, stripped⟩ := Carry.readLine_ok read
      rw [stripped] at outside
      dsimp only at outside
      have decided := (Levels.observe_ok_iff.mp observed).follow_delimiter reading.stripped.text
      simpa [Event.isBlank, Event.delimiter, outside, decided.2] using decided.1

/-- Before the first line of code there are no levels ahead. -/
theorem Trace.levelsAhead_fresh (trace : Trace options tracker lines events final)
    (fresh : tracker.levels = {}) : levelsAhead 0 events = 0 := by
  induction trace with
  | done => rfl
  | step passed rest ih =>
    obtain ⟨reading, _, _, _, role⟩ := reading_of_step passed
    rw [levelsAhead_cons]
    cases role with
    | blank empty => exact ih fresh
    | nested filled inside => rfl
    | content filled outside placed observed =>
      have decided := Levels.observe_ok_iff.mp observed
      rw [fresh] at decided
      cases decided with
      | baseline => rfl
      | same | indent | dedent => contradiction

/-- The brackets of the lines, with those behind each of them, close all that is open. -/
theorem Trace.follow_bracketWord (trace : Trace options tracker lines events final)
    (closed : final.carry.nesting.depth = 0) :
    ∃ readings,
      tracker.carry.readLines options.tail (tracker.lastLine + 1) lines =
        .ok (readings, final.carry) ∧
      (∀ row ∈ readings.zip (delivered (closers final.levels.depth) events),
        Delivers row.1 row.2) ∧
      Bracket.follow
          (List.replicate tracker.carry.nesting.depth .written ++
            List.replicate (levelsAhead tracker.levels.depth events) .inserted)
          (bracketWord readings (delivered (closers final.levels.depth) events)) = some [] := by
  induction trace with
  | done => exact ⟨[], rfl, by simp, by rw [closed]; rfl⟩
  | @step line event lines events final tracker next passed rest ih =>
    obtain ⟨reading, read, carried, numbered, role⟩ := reading_of_step passed
    obtain ⟨readings, readRest, delivers, followedRest⟩ := ih closed
    rw [carried, numbered] at readRest
    refine ⟨reading :: readings, Carry.readLines_of_cons read readRest, ?_, ?_⟩
    · intro row member
      rw [delivered, List.zip_cons_cons, List.mem_cons] at member
      rcases member with rfl | later
      · rw [role.text_eq]
        refine ⟨_, ?_, rfl⟩
        split
        · exact .none
        · exact isDelimiter_delimiterBefore _ _
      · exact delivers row later
    obtain ⟨_, followed, _⟩ := Carry.readLine_ok read
    have ahead := rest.follow_delimiterBefore closed
    rw [carried] at ahead followedRest
    rw [levelsAhead_cons, delivered, bracketWord_cons, role.text_eq, Reading.brackets,
      Reading.appended_append, List.append_assoc, Bracket.follow_append]
    cases blank : event.isBlank with
    | true =>
      cases role with
      | blank empty =>
        rw [depth_of_isEmpty read empty] at followedRest
        simpa [Marking.writtenBrackets, brackets_of_isEmpty read empty, Bracket.follow,
          insertedBrackets] using followedRest
      | nested | content => simp [Event.isBlank] at blank
    | false =>
      simp only [Bool.false_eq_true, ↓reduceIte, role.levelsAhead_eq blank,
        Marking.writtenBrackets, follow_written followed, Option.bind_some, Bracket.follow_append,
        ahead]
      exact followedRest

end Tracker

/-- The brackets of a run close all that is open, when the code closes all of its own. -/
theorem follow_processLines {options : Options} {lines : List String}
    (passed : (processLines options lines).fault? = none)
    (closed : (({} : Tracker).readAll options lines).carry.nesting.depth = 0) :
    ∃ readings carry,
      ({} : Carry).readLines options.tail 1 lines = .ok (readings, carry) ∧
      readings.length = (processLines options lines).lines.length ∧
      (∀ row ∈ readings.zip (processLines options lines).lines, Delivers row.1 row.2) ∧
      Bracket.follow [] (bracketWord readings (processLines options lines).lines) = some [] := by
  obtain ⟨events, final, trace, _, output⟩ := trace_of_processLines passed
  rw [trace.readAll] at closed
  obtain ⟨readings, read, delivers, followed⟩ := trace.follow_bracketWord closed
  have levels : ({} : Tracker).levels.depth = 0 := rfl
  have depth : ({} : Tracker).carry.nesting.depth = 0 := rfl
  rw [levels, depth, trace.levelsAhead_fresh rfl, ← output] at followed
  rw [← output] at delivers
  refine ⟨readings, final.carry, read, ?_, delivers, followed⟩
  rw [output, length_delivered, trace.length_events, Carry.length_readLines read]

/-- The brackets of the code and those put behind its lines never cross, when the code closes all of
its own. -/
theorem wellNested_processLines (options : Options) (lines : List String)
    (passed : (processLines options lines).fault? = none)
    (closed : (({} : Tracker).readAll options lines).carry.nesting.depth = 0) :
    ∃ readings carry,
      ({} : Carry).readLines options.tail 1 lines = .ok (readings, carry) ∧
      readings.length = (processLines options lines).lines.length ∧
      (∀ row ∈ readings.zip (processLines options lines).lines, Delivers row.1 row.2) ∧
      WellNested (bracketWord readings (processLines options lines).lines) ∧
      (bracketWord readings (processLines options lines).lines).count ⟨.inserted, true⟩ =
        (bracketWord readings (processLines options lines).lines).count ⟨.inserted, false⟩ ∧
      ∀ front back, bracketWord readings (processLines options lines).lines = front ++ back →
        front.count ⟨.inserted, false⟩ ≤ front.count ⟨.inserted, true⟩ := by
  obtain ⟨readings, carry, read, length, delivers, followed⟩ := follow_processLines passed closed
  refine ⟨readings, carry, read, length, delivers, Bracket.wellNested_of_follow followed, ?_, ?_⟩
  · simpa using Bracket.count_follow followed .inserted
  · intro front back split
    rw [split] at followed
    exact Bracket.count_closing_le followed .inserted

theorem wellNested_processLines_mixed :
    (processLines {} ["a", "  f(\x7b", "y", "\x7d)", "    b", "", "c", "  d"]).fault? = none ∧
    (({} : Tracker).readAll {}
      ["a", "  f(\x7b", "y", "\x7d)", "    b", "", "c", "  d"]).carry.nesting.depth = 0 ∧
    ∃ readings carry,
      ({} : Carry).readLines .trim 1 ["a", "  f(\x7b", "y", "\x7d)", "    b", "", "c", "  d"] =
        .ok (readings, carry) ∧
      WellNested (bracketWord readings
        ["a\x7b", "  f(\x7b", "y", "\x7d)\x7b", "    b\x7d\x7d;", "", "c\x7b", "  d\x7d"]) :=
  have passed : (processLines {}
      ["a", "  f(\x7b", "y", "\x7d)", "    b", "", "c", "  d"]).fault? = none := by
    decide +kernel
  have closed : (({} : Tracker).readAll {}
      ["a", "  f(\x7b", "y", "\x7d)", "    b", "", "c", "  d"]).carry.nesting.depth = 0 := by
    decide +kernel
  have output : (processLines {} ["a", "  f(\x7b", "y", "\x7d)", "    b", "", "c", "  d"]).lines =
      ["a\x7b", "  f(\x7b", "y", "\x7d)\x7b", "    b\x7d\x7d;", "", "c\x7b", "  d\x7d"] := by
    decide +kernel
  have ⟨readings, carry, read, _, _, nested, _⟩ := wellNested_processLines {} _ passed closed
  ⟨passed, closed, readings, carry, read, output ▸ nested⟩

end Offside
