import Offside.Proofs.FaultLines
import Offside.Proofs.Handover
import Offside.Proofs.Indents
import Offside.Proofs.Renumbering

/-! A blank line more. It leaves mode, brackets and levels alone (`Tracker.step_blank`) and comes out
where it stands (`Holdback.lines_close_blank`), and all behind it goes on as before, with every number
grown by one (`Tracker.Course.insert_blank`). So it is transparent (`blank_line_is_transparent`). -/

namespace Offside

/-- The number of a line once there is one line more behind the first lines. -/
def movedLine (before number : Nat) : Nat :=
  if before < number then number + 1 else number

namespace Fault

variable {fault : Fault}

theorem renumber_movedLine_of_le (within : fault.line ≤ before)
    (closed : ∀ openedAt, fault.cause ≠ .unterminatedComment openedAt) :
    fault.renumber (movedLine before) = fault := by
  rw [renumber, Cause.renumber_eq _ closed, movedLine, if_neg (Nat.not_lt.mpr within)]

theorem renumber_movedLine_of_lt (behind : before < fault.line)
    (opened : ∀ openedAt, fault.cause = .unterminatedComment openedAt → before < openedAt) :
    fault.renumber (movedLine before) = fault.renumber (· + 1) := by
  obtain ⟨line, cause⟩ := fault
  have behind : before < line := behind
  cases cause with
  | unterminatedComment openedAt =>
    simp [renumber, Cause.renumber, movedLine, behind, opened openedAt rfl]
  | _ => simp [renumber, Cause.renumber, movedLine, behind]

end Fault

theorem insertIdx_append (first second : List String) (text : String) :
    (first ++ second).insertIdx first.length text = first ++ text :: second :=
  List.modifyTailIdx_add (List.cons text) 0 first second

namespace Holdback

/-- Lines that are ready stay in front of those that get ready. -/
theorem ready_foldl_accept (ready : List String) (held : Option HeldLine) (events : List Event) :
    (events.foldl (fun holdback event => holdback.accept event) (⟨held, ready⟩ : Holdback)).ready =
      ready ++ (events.foldl (fun holdback event => holdback.accept event)
        (⟨held, []⟩ : Holdback)).ready := by
  have front := foldl_accept_append ready events ⟨held, []⟩
  rw [List.append_nil] at front
  rw [front]

/-- Blank lines behind a held line wait with it, until the next line of code lets all of them go. -/
theorem ready_foldl_held (events : List Event) (held : HeldLine) :
    (events.foldl (fun holdback event => holdback.accept event)
        (⟨some held, []⟩ : Holdback)).ready =
      if events.all Event.isBlank then []
      else held.lines (delimiterBefore "" events) ++ (takeAll events).ready := by
  induction events generalizing held with
  | nil => rfl
  | cons event events ih =>
    cases event with
    | blank text =>
      have own : (takeAll (.blank text :: events)).ready = [text] ++ (takeAll events).ready :=
        ready_foldl_accept [text] none events
      rw [List.foldl_cons, own]
      refine (ih { held with blanks := held.blanks ++ [text] }).trans ?_
      simp [Event.isBlank, delimiterBefore_cons, HeldLine.lines]
    | nested text => exact ready_foldl_accept (held.lines "") (some { text }) events
    | content text shift =>
      exact ready_foldl_accept (held.lines shift.delimiter) (some { text }) events

/-- A blank line more is ready in its place, or waits with the others behind the last line of
code. -/
theorem ready_takeAll_blank (front back : List Event) (text : String) :
    (takeAll (front ++ .blank text :: back)).ready =
      (takeAll (front ++ back)).ready.insertIdx front.length text := by
  have place := size_takeAll front
  have longer : takeAll (front ++ .blank text :: back) =
      back.foldl (fun holdback event => holdback.accept event)
        ((takeAll front).accept (.blank text)) := by
    rw [takeAll, List.foldl_append, List.foldl_cons]
    rfl
  have original : takeAll (front ++ back) =
      back.foldl (fun holdback event => holdback.accept event) (takeAll front) :=
    List.foldl_append
  rw [longer, original, ← place]
  rcases takeAll front with ⟨held | held, ready⟩
  · -- Nothing is held, and the line is ready at once.
    refine (ready_foldl_accept (ready ++ [text]) none back).trans ?_
    rw [ready_foldl_accept ready, List.append_assoc]
    exact (insertIdx_append ready _ text).symm
  · let waiting := { held with blanks := held.blanks ++ [text] }
    refine (ready_foldl_accept ready (some waiting) back).trans ?_
    rw [ready_foldl_accept ready, ready_foldl_held, ready_foldl_held]
    have size : (Holdback.mk (some held) ready).size = ready.length + (held.lines "").length := rfl
    rw [size]
    split
    · -- Nothing lets the held line go.
      rw [List.append_nil, List.insertIdx_of_length_lt]
      simp [HeldLine.lines]
    · have insert := insertIdx_append (ready ++ held.lines (delimiterBefore "" back))
        (takeAll back).ready text
      simpa [HeldLine.lines, waiting] using insert.symm

/-- So it is in what is answered. -/
theorem lines_close_blank (ending : Except Fault Nat) (front back : List Event) (text : String) :
    ((takeAll (front ++ .blank text :: back)).close ending).lines =
      ((takeAll (front ++ back)).close ending).lines.insertIdx front.length text := by
  cases ending with
  | error => exact ready_takeAll_blank front back text
  | ok openLevels =>
    have inserted := insertIdx_append (delivered (delimiterBefore (closers openLevels) back) front)
      (delivered (closers openLevels) back) text
    rw [length_delivered] at inserted
    rw [lines_close_ok, lines_close_ok, delivered_append, delivered_append, inserted]
    simp [delivered, delimiterBefore_cons, Event.isBlank, Event.text]

theorem close_mapError (g : Fault → Fault) (ending : Except Fault Nat) (holdback : Holdback) :
    holdback.close (ending.mapError g) =
      { lines := (holdback.close ending).lines
        fault? := (holdback.close ending).fault?.map g } := by
  cases ending <;> rfl

end Holdback

namespace Tracker

variable {options : Options} {tracker : Tracker} {lines : List String} {events : List Event}
variable {ending : Except Fault Nat} {fault : Fault}

/-- A blank line in code is a line more, and nothing else. -/
theorem step_blank {blank : String} (blanks : blank.toList.all isBlank = true)
    (code : tracker.carry.mode = .code) :
    tracker.step options (tracker.lastLine + 1) blank =
      (.ok (.blank blank), tracker.renumber (· + 1)) := by
  obtain ⟨⟨mode, nesting⟩, levels, lastLine⟩ := tracker
  obtain rfl : mode = .code := code
  have each : ∀ c ∈ blank.toList, isBlank c = true := List.all_eq_true.mp blanks
  have led : opensFirst .code (blank.toList ++ "".toList) = opensFirst .code "".toList := by
    rw [opensFirst_append each]
    exact Bool.and_false _
  have read : Carry.strip options.tail (lastLine + 1) (blank ++ "") ⟨.code, nesting⟩ = _ :=
    Carry.strip_append each rfl led options.tail (lastLine + 1)
  have nothing : Carry.strip options.tail (lastLine + 1) "" ⟨.code, nesting⟩ =
      (.ok ⟨lastLine + 1, "", nesting.depth, false, false⟩, ⟨.code, nesting⟩) := by
    cases options.tail <;> rfl
  rw [nothing, String.append_empty] at read
  simp [step, read, classify, Except.map, StrippedLine.prepend, StrippedLine.isEmpty, blanks,
    Tracker.renumber, Carry.renumber, Mode.renumber]

/-- Behind lines that do not end in a comment, a fault names later lines alone. -/
theorem Course.names_later (outside : tracker.carry.mode.inBlockComment = false)
    (course : Course options tracker lines events (.error fault)) :
    tracker.lastLine < fault.line ∧
      ∀ openedAt, fault.cause = .unterminatedComment openedAt → tracker.lastLine < openedAt := by
  rcases course.failed with ⟨final, trace, refuses⟩ | ⟨-, named, other⟩
  · obtain ⟨named, openedAt, inside, cause⟩ := finish_error (Prod.ext refuses rfl)
    obtain ⟨i, opened, -⟩ := (trace.opensForGood inside).resolve_left fun ⟨same, _⟩ => by
      simp [same, Mode.inBlockComment] at outside
    refine ⟨?_, ?_⟩
    · rw [named, trace.lastLine]
      -- There is a line behind, for there is one that opens the comment.
      cases trace with
      | done => simp [inside, Mode.inBlockComment] at outside
      | step => simp
    · intro other same
      rw [cause] at same
      cases same
      omega
  · exact ⟨by omega, fun openedAt unclosed => absurd unclosed (other openedAt)⟩

/-- A fault behind the first lines moves down by one line, and a fault within them stays. -/
theorem Course.insert_blank {before behind : List String} {blank : String}
    (blanks : blank.toList.all isBlank = true)
    (outside : ∀ events next, Trace options {} before events next →
      next.carry.mode.inBlockComment = false)
    (course : Course options {} (before ++ behind) events ending) :
    ∃ longer,
      Course options {} (before ++ blank :: behind) longer
        (ending.mapError (Fault.renumber (movedLine before.length))) ∧
      ((Holdback.takeAll longer).close ending).lines =
        ((Holdback.takeAll events).close ending).lines.insertIdx before.length blank := by
  rcases course.split with
    ⟨front, back, next, rfl, trace, rest⟩ | ⟨fault, rfl, early, named, closed, others⟩
  · have outside := outside front next trace
    have code : next.carry.mode = .code :=
      (trace.isBetween (.inl rfl)).resolve_right (by simp [outside])
    have place : front.length = before.length := trace.length_events
    have moved : ending.mapError (Fault.renumber (movedLine before.length)) =
        ending.mapError (Fault.renumber (· + 1)) := by
      cases ending with
      | ok openLevels => rfl
      | error fault =>
        obtain ⟨later, opened⟩ := rest.names_later outside
        rw [trace.lastLine_start] at later opened
        exact congrArg Except.error (Fault.renumber_movedLine_of_lt later opened)
    refine ⟨front ++ .blank blank :: back, ?_, ?_⟩
    · rw [moved]
      exact trace.course
        (.accepted (step_blank blanks code) (rest.renumber (· + 1) fun _ => rfl))
    · rw [Holdback.lines_close_blank, place]
  · have named : fault.line = 0 + events.length + 1 := named
    have kept : fault.renumber (movedLine before.length) = fault :=
      Fault.renumber_movedLine_of_le (by omega) closed
    refine ⟨events, ?_, ?_⟩
    · rw [Except.mapError, kept]
      exact others (blank :: behind)
    · have short := (Holdback.takeAll events).length_ready_le
      rw [Holdback.size_takeAll] at short
      exact (List.insertIdx_of_length_lt (Nat.lt_of_le_of_lt short early)).symm

end Tracker

/-- A run without a fault answers all lines. -/
theorem length_lines_processLines {options : Options} {lines : List String}
    (passed : (processLines options lines).fault? = none) :
    (processLines options lines).lines.length = lines.length := by
  obtain ⟨events, final, trace, -, delivers⟩ := trace_of_processLines passed
  rw [delivers, length_delivered, trace.length_events]

/-- A line of blanks that is put where no comment is open comes out unchanged where it stands, and
is not noticed otherwise: the other lines are answered as before. A fault stays what it is, and the
lines that it names move down by one when they are behind the new line, as the last line is when
the text ends inside a comment. -/
theorem blank_line_is_transparent {options : Options} {before : List String} {blank : String}
    (blanks : blank.toList.all isBlank = true)
    (outside : ∀ events tracker, Tracker.Trace options {} before events tracker →
      tracker.carry.mode.inBlockComment = false) (behind : List String) :
    let original := processLines options (before ++ behind)
    let moved := Fault.renumber (movedLine before.length)
    processLines options (before ++ blank :: behind) =
      { lines := original.lines.insertIdx before.length blank,
        fault? := original.fault?.map moved } ∧
    (original.fault? = none → original.lines.length = before.length + behind.length) ∧
    ∀ fault, original.fault? = some fault → (moved fault).cause.kind = fault.cause.kind ∧
      ∀ openedAt, fault.cause = .unterminatedComment openedAt →
        (moved fault).line = fault.line + 1 := by
  intro original moved
  refine ⟨?_, ?_, fun fault failed => ⟨Cause.kind_renumber _ _, fun openedAt unclosed => ?_⟩⟩
  · obtain ⟨events, ending, course⟩ := Tracker.exists_course options {} (before ++ behind)
    obtain ⟨longer, courseToo, lines⟩ := course.insert_blank blanks outside
    have answered : original = (Holdback.takeAll events).close ending :=
      processLines_of_course course
    rw [processLines_of_course courseToo, Holdback.close_mapError, lines, answered]
    cases ending <;> rfl
  · intro passed
    rw [length_lines_processLines passed, List.length_append]
  · obtain ⟨events, final, trace, inside⟩ := open_of_unterminatedComment failed unclosed
    obtain rfl := trace.fault_of_open inside failed
    have more : behind ≠ [] := by
      rintro rfl
      rw [List.append_nil] at trace
      simpa [inside, Mode.inBlockComment] using outside events final trace
    have behind := List.length_pos_of_ne_nil more
    simp [moved, Fault.renumber, movedLine, behind]

/-- A blank line inside brackets, in front of a comment that is left open. -/
theorem blank_line_is_transparent_in_brackets :
    "\t\u3000".toList.all isBlank = true ∧
    (∀ events tracker, Tracker.Trace {} {} ["a", "  b \x7b"] events tracker →
      tracker.carry.mode.inBlockComment = false) ∧
    processLines {} (["a", "  b \x7b"] ++ ["c /* d", "e"]) =
      ⟨["a\x7b", "  b \x7b"], some ⟨4, .unterminatedComment 3⟩⟩ ∧
    processLines {} (["a", "  b \x7b"] ++ "\t\u3000" :: ["c /* d", "e"]) =
      ⟨["a\x7b", "  b \x7b", "\t\u3000"], some ⟨5, .unterminatedComment 4⟩⟩ := by
  have outside : ∀ events tracker, Tracker.Trace {} {} ["a", "  b \x7b"] events tracker →
      tracker.carry.mode.inBlockComment = false := by
    intro events tracker trace
    rw [← trace.readAll]
    decide +kernel
  have original : processLines {} (["a", "  b \x7b"] ++ ["c /* d", "e"]) =
      ⟨["a\x7b", "  b \x7b"], some ⟨4, .unterminatedComment 3⟩⟩ := by
    decide +kernel
  have blanks : "\t\u3000".toList.all isBlank = true := by decide
  refine ⟨blanks, outside, original, ?_⟩
  have longer := (blank_line_is_transparent blanks outside ["c /* d", "e"]).1
  rw [original] at longer
  exact longer

end Offside
