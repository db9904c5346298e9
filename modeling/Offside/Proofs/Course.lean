import Offside.Proofs.Tails

/-! How a run goes. It accepts lines until one is rejected or the text ends. A `Tracker.Course` keeps
the roles of the accepted lines and how the run ends, and from these two alone comes what the run
answers (`processLines_of_course`). -/

namespace Offside

/-- What is answered when the text ends there: all lines, the last line of code closing the levels
that are left open, or only those that are ready in front of a fault. -/
def Holdback.close (ending : Except Fault Nat) (holdback : Holdback) : Outcome :=
  match ending with
  | .ok openLevels => ⟨(holdback.finish openLevels).ready, none⟩
  | .error fault => ⟨holdback.ready, some fault⟩

/-- The text behind the last line of code, as far as it is answered. -/
def lastDelimiter : Except Fault Nat → String
  | .ok openLevels => closers openLevels
  | .error _ => closers 0

namespace Tracker

/-- The roles of the lines that are accepted, and how the run over all lines ends. -/
inductive Course (options : Options) :
    Tracker → List String → List Event → Except Fault Nat → Prop where
  | ended {tracker : Tracker} (finished : tracker.finish.1 = ending) :
      Course options tracker [] [] ending
  | rejected {tracker : Tracker} {fault : Fault} (lines : List String)
      (rejects : (tracker.step options (tracker.lastLine + 1) line).1 = .error fault) :
      Course options tracker (line :: lines) [] (.error fault)
  | accepted {tracker next : Tracker}
      (passed : tracker.step options (tracker.lastLine + 1) line = (.ok event, next))
      (rest : Course options next lines events ending) :
      Course options tracker (line :: lines) (event :: events) ending

variable {options : Options} {tracker next : Tracker} {lines first second : List String}
variable {events more : List Event} {ending : Except Fault Nat}

theorem exists_course (options : Options) (tracker : Tracker) (lines : List String) :
    ∃ events ending, Course options tracker lines events ending := by
  induction lines generalizing tracker with
  | nil => exact ⟨[], _, .ended rfl⟩
  | cons line lines ih =>
    cases moved : tracker.step options (tracker.lastLine + 1) line with
    | mk result next =>
      cases result with
      | error fault => exact ⟨[], _, .rejected lines (congrArg Prod.fst moved)⟩
      | ok event =>
        obtain ⟨events, ending, rest⟩ := ih next
        exact ⟨event :: events, ending, .accepted moved rest⟩

/-- Behind accepted lines a run goes on as one over the lines that follow. -/
theorem Trace.course (trace : Trace options tracker first events next)
    (course : Course options next second more ending) :
    Course options tracker (first ++ second) (events ++ more) ending := by
  induction trace with
  | done => exact course
  | step passed _ ih => exact .accepted passed (ih course)

/-- A run that is not stopped within the first lines accepts them; one that is stopped there names a
line among them, and does not depend on what follows. -/
theorem Course.split (course : Course options tracker (first ++ second) events ending) :
    (∃ front back next, events = front ++ back ∧ Trace options tracker first front next ∧
      Course options next second back ending) ∨
    ∃ fault, ending = .error fault ∧ events.length < first.length ∧
      fault.line = tracker.lastLine + events.length + 1 ∧
      (∀ openedAt, fault.cause ≠ .unterminatedComment openedAt) ∧
      ∀ other, Course options tracker (first ++ other) events ending := by
  induction first generalizing tracker events with
  | nil => exact .inl ⟨[], events, tracker, rfl, .done, course⟩
  | cons line first ih =>
    cases course with
    | rejected _ rejects =>
      obtain ⟨named, cause⟩ := step_error (Prod.ext rejects rfl)
      exact .inr ⟨_, rfl, by simp, by simpa using named, cause, fun _ => .rejected _ rejects⟩
    | @accepted _ event _ events _ _ next passed rest =>
      have numbered := lastLine_step options (tracker.lastLine + 1) line tracker
      rw [passed] at numbered
      rcases ih rest with
        ⟨front, back, last, rfl, trace, behind⟩ | ⟨fault, rfl, within, named, cause, others⟩
      · exact .inl ⟨event :: front, back, last, rfl, .step passed trace, behind⟩
      · refine .inr ⟨fault, rfl, by simpa using within, ?_, cause,
          fun other => .accepted passed (others other)⟩
        rw [named, numbered, List.length_cons]
        omega

/-- A fault names the line that is rejected, or it is found where all lines have been accepted. -/
theorem Course.failed {fault : Fault} (course : Course options tracker lines events (.error fault)) :
    (∃ final, Trace options tracker lines events final ∧ final.finish.1 = .error fault) ∨
      (events.length < lines.length ∧ fault.line = tracker.lastLine + events.length + 1 ∧
        ∀ openedAt, fault.cause ≠ .unterminatedComment openedAt) := by
  rw [← List.append_nil lines] at course
  rcases course.split with ⟨front, back, final, rfl, trace, course⟩ | stopped
  · cases course with
    | ended refuses => exact .inl ⟨final, by rwa [List.append_nil], refuses⟩
  · obtain ⟨_, same, within, named, cause, -⟩ := stopped
    cases same
    exact .inr ⟨within, named, cause⟩

theorem foresee_of_course (course : Course options tracker lines events ending)
    (holdback : Holdback) :
    Session.foresee options tracker holdback lines =
      (events.foldl (fun holdback event => holdback.accept event) holdback).close ending := by
  induction course generalizing holdback with
  | @ended ending tracker finished =>
    subst finished
    rw [Session.foresee, List.foldl_nil]
    cases tracker.finish with
    | mk result final => cases result <;> rfl
  | @rejected line tracker fault lines rejects =>
    have moved : tracker.step options (tracker.lastLine + 1) line = (.error fault, _) :=
      Prod.ext rejects rfl
    rw [Session.foresee, moved]
    rfl
  | accepted passed _ ih =>
    rw [Session.foresee, passed, List.foldl_cons]
    exact ih (holdback.accept _)

end Tracker

variable {options : Options} {lines : List String} {events : List Event}
variable {ending : Except Fault Nat}

/-- What a run answers is known from the roles of the lines it accepts and from its end. -/
theorem processLines_of_course (course : Tracker.Course options {} lines events ending) :
    processLines options lines = (Holdback.takeAll events).close ending := by
  rw [processLines_eq_foresee]
  exact Tracker.foresee_of_course course {}

theorem exists_course_of_fault {fault : Fault}
    (failed : (processLines options lines).fault? = some fault) :
    ∃ events, Tracker.Course options {} lines events (.error fault) := by
  obtain ⟨events, ending, course⟩ := Tracker.exists_course options {} lines
  rw [processLines_of_course course] at failed
  cases ending with
  | ok openLevels => simp [Holdback.close] at failed
  | error found =>
    obtain rfl : found = fault := by simpa [Holdback.close] using failed
    exact ⟨events, course⟩

namespace Holdback

theorem lines_close_ok (openLevels : Nat) (events : List Event) :
    ((takeAll events).close (.ok openLevels)).lines = delivered (closers openLevels) events :=
  ready_finish openLevels events {}

/-- The lines that are answered are the first of the accepted ones, with their delimiters. -/
theorem lines_close_prefix (ending : Except Fault Nat) (events : List Event) :
    ((takeAll events).close ending).lines <+: delivered (lastDelimiter ending) events := by
  cases ending with
  | ok openLevels =>
    rw [lines_close_ok]
    exact List.prefix_rfl
  | error => exact ready_takeAll_prefix_delivered 0 events

/-- As many lines are answered as the roles say. -/
theorem length_lines_close_congr {first second : List Event} (ending : Except Fault Nat)
    (same : first.map Event.bare = second.map Event.bare) :
    ((takeAll first).close ending).lines.length = ((takeAll second).close ending).lines.length := by
  cases ending with
  | ok openLevels =>
    have length : first.length = second.length := by simpa using congrArg List.length same
    simp [close, length_ready_finish, length]
  | error => exact length_ready_takeAll_congr same

end Holdback

end Offside
