import Offside.Proofs.Forfeit
import Offside.Proofs.Padding

/-! A run that drops the tails of comments and a run that keeps them. Line by line they know the
same and give the lines the same roles (`Tracker.step_tail`), so they settle, answer and reject the
same lines, and only padding at the end of lines tells them apart (`tail_is_cosmetic`). -/

namespace Offside

namespace Event

/-- The role of a line, whatever its text. -/
def bare : Event → Event
  | blank _ => blank ""
  | nested _ => nested ""
  | content _ shift => content "" shift

@[simp] theorem isBlank_bare (event : Event) : event.bare.isBlank = event.isBlank := by
  cases event <;> rfl

@[simp] theorem delimiter_bare (event : Event) : event.bare.delimiter = event.delimiter := by
  cases event <;> rfl

@[simp] theorem filledAt_bare (events : List Event) (i : Nat) :
    filledAt (events.map bare) i = filledAt events i := by
  cases found : events[i]? <;> simp [filledAt, found]

end Event

@[simp] theorem delimiterBefore_bare (closing : String) (events : List Event) :
    delimiterBefore closing (events.map Event.bare) = delimiterBefore closing events := by
  induction events with
  | nil => rfl
  | cons event events ih => simp [delimiterBefore_cons, ih]

@[simp] theorem delimiters_bare (closing : String) (events : List Event) :
    delimiters closing (events.map Event.bare) = delimiters closing events := by
  induction events with
  | nil => rfl
  | cons event events ih => simp [delimiters, ih]

/-- The text behind line `i`. -/
def delimiterBehind (closing : String) (events : List Event) (i : Nat) : String :=
  if Event.filledAt events i then delimiterBefore closing (events.drop (i + 1)) else ""

@[simp] theorem delimiterBehind_bare (closing : String) (events : List Event) (i : Nat) :
    delimiterBehind closing (events.map Event.bare) i = delimiterBehind closing events i := by
  simp only [delimiterBehind, Event.filledAt_bare, ← List.map_drop, delimiterBefore_bare]

theorem getElem?_delivered (closing : String) (events : List Event) (i : Nat) :
    (delivered closing events)[i]? =
      events[i]?.map fun event => event.text ++ delimiterBehind closing events i := by
  induction events generalizing i with
  | nil => rfl
  | cons event events ih =>
    cases i with
    | zero =>
      cases blank : event.isBlank <;>
        simp [delivered, delimiterBehind, Event.filledAt, blank]
    | succ i => exact ih i

/-- A line that is answered has its text and the text behind it. -/
theorem event_of_prefix {lines : List String} {events : List Event} {i : Nat}
    (front : lines <+: delivered closing events) (answered : lines[i]? = some line) :
    ∃ event, events[i]? = some event ∧ line = event.text ++ delimiterBehind closing events i := by
  obtain ⟨rest, whole⟩ := front
  have before := (List.getElem?_eq_some_iff.mp answered).1
  have given := getElem?_delivered closing events i
  rw [← whole, List.getElem?_append_left before, answered] at given
  obtain ⟨event, known, same⟩ := Option.map_eq_some_iff.mp given.symm
  exact ⟨event, known, same.symm⟩

theorem Outcome.answer_of_prefix {outcome : Outcome} {events : List Event}
    (front : outcome.lines <+: delivered closing events) (before : call < outcome.lines.length) :
    ∃ event, events[call]? = some event ∧
      outcome.answer call = .line (event.text ++ delimiterBehind closing events call) := by
  have answered : outcome.lines[call]? = some outcome.lines[call] :=
    List.getElem?_eq_getElem before
  obtain ⟨event, known, same⟩ := event_of_prefix front answered
  exact ⟨event, known, by simp [answer, answered, same]⟩

/-- As many lines are ready as the roles say. -/
theorem Holdback.length_ready_takeAll_congr {first second : List Event}
    (same : first.map Event.bare = second.map Event.bare) :
    (takeAll first).ready.length = (takeAll second).ready.length := by
  have length : first.length = second.length := by simpa using congrArg List.length same
  have filled (i : Nat) : Event.filledAt first i = Event.filledAt second i := by
    rw [← Event.filledAt_bare first, same, Event.filledAt_bare]
  have settled := (isSettled_takeAll first).congr fun i _ => filled i
  rw [length] at settled
  exact settled.unique (isSettled_takeAll second)

namespace Tracker

variable {strict : Bool} {tracker next final : Tracker} {lines : List String}
variable {events : List Event}

/-- What a step shows of a line, apart from its text. -/
def bare (moved : Except Fault Event × Tracker) : Except Fault Event × Tracker :=
  (moved.1.map Event.bare, moved.2)

/-- Padding at the end of a line does not change its role. -/
theorem classify_append {blanks : String} (padding : IsPadding blanks.toList) (strict : Bool)
    (line : StrippedLine) (tracker : Tracker) :
    bare (classify { tail := .pad, strict } (line.append blanks) tracker) =
      bare (classify { tail := .trim, strict } line tracker) := by
  have depth : (line.append blanks).depthAtStart = line.depthAtStart := rfl
  have misplaced : (line.append blanks).misplacedComment? = line.misplacedComment? := rfl
  have number : (line.append blanks).number = line.number := rfl
  unfold classify
  rw [StrippedLine.isEmpty_append padding, depth, misplaced, number]
  split
  · rfl
  · rename_i filled
    rw [StrippedLine.width_append (by simpa using filled)]
    split
    · rfl
    · dsimp only
      cases if strict = true then line.misplacedComment? else none with
      | some cause => rfl
      | none =>
        cases tracker.levels.observe line.width with
        | mk result levels => cases result <;> rfl

theorem step_pad (strict : Bool) (number : Nat) (line : String) (tracker : Tracker) :
    bare (tracker.step { tail := .pad, strict } number line) =
      bare (tracker.step { tail := .trim, strict } number line) := by
  obtain ⟨blanks, padding, same, _⟩ := tracker.carry.strip_pad number line
  unfold step
  dsimp only
  rw [same]
  cases read : tracker.carry.strip .trim number line with
  | mk result carry =>
    cases result with
    | ok stripped => exact classify_append padding strict stripped _
    | error fault => rfl

/-- The tail of a comment does not matter to what is known of a line. -/
theorem step_tail (first second : CommentTail) (strict : Bool) (number : Nat) (line : String)
    (tracker : Tracker) :
    bare (tracker.step { tail := first, strict } number line) =
      bare (tracker.step { tail := second, strict } number line) := by
  cases first <;> cases second
  · rfl
  · exact (step_pad strict number line tracker).symm
  · exact step_pad strict number line tracker
  · rfl

theorem ok_of_bare {moved : Except Fault Event × Tracker}
    (same : bare moved = bare (.ok event, next)) :
    ∃ other, moved = (.ok other, next) ∧ other.bare = event.bare := by
  obtain ⟨result, other⟩ := moved
  cases result with
  | error fault => simp [bare, Except.map] at same
  | ok shown => exact ⟨shown, by simp_all [bare, Except.map], by simp_all [bare, Except.map]⟩

theorem error_of_bare {moved : Except Fault Event × Tracker} {fault : Fault}
    (same : bare moved = bare (.error fault, next)) : moved.1 = .error fault := by
  obtain ⟨result, other⟩ := moved
  cases result with
  | error found => simp_all [bare, Except.map]
  | ok shown => simp [bare, Except.map] at same

/-- The same lines are accepted, in the same roles. -/
theorem Trace.tail {first : CommentTail}
    (trace : Trace { tail := first, strict } tracker lines events final) (second : CommentTail) :
    ∃ others, Trace { tail := second, strict } tracker lines others final ∧
      others.map Event.bare = events.map Event.bare := by
  induction trace with
  | done => exact ⟨[], .done, rfl⟩
  | @step line event lines events final tracker next passed rest ih =>
    have same := step_tail second first strict (tracker.lastLine + 1) line tracker
    rw [passed] at same
    obtain ⟨other, passedToo, role⟩ := ok_of_bare same
    obtain ⟨others, restToo, roles⟩ := ih
    exact ⟨other :: others, .step passedToo restToo, by simp [role, roles]⟩

theorem Rejects.tail {first : CommentTail} {fault : Fault}
    (fails : tracker.Rejects { tail := first, strict } fault lines) (second : CommentTail) :
    tracker.Rejects { tail := second, strict } fault lines := by
  cases lines with
  | nil => exact fails
  | cons line rest =>
    have same := step_tail second first strict (tracker.lastLine + 1) line tracker
    have rejected : tracker.step { tail := first, strict } (tracker.lastLine + 1) line =
      (.error fault, (tracker.step { tail := first, strict } (tracker.lastLine + 1) line).2) :=
        Prod.ext fails rfl
    rw [rejected] at same
    exact error_of_bare same

end Tracker

namespace Source

variable {source : Source}

theorem carry_pad (source : Source) (count : Nat) :
    source.carry .pad count = source.carry .trim count := by
  induction count with
  | zero => rfl
  | succ count ih =>
    cases found : source count with
    | none => simp only [carry, found, ih]
    | some line =>
      obtain ⟨_, _, same, _⟩ := (source.carry .trim count).strip_pad (count + 1) line
      simp only [carry, found, ih, same]

/-- What remains of a line is padded only when the line starts or ends inside a block comment. -/
theorem stripped?_pad (source : Source) (i : Nat) :
    ∃ blanks : String, IsPadding blanks.toList ∧
      source.stripped? .pad i = (source.stripped? .trim i).map (StrippedLine.append blanks) ∧
      ((source.carry .trim i).mode.inBlockComment = true ∨
        (source.carry .trim (i + 1)).mode.inBlockComment = true ∨ blanks = "") := by
  cases found : source i with
  | none => exact ⟨"", by simp [IsPadding], by simp [stripped?, found], .inr (.inr rfl)⟩
  | some line =>
    obtain ⟨blanks, padding, same, inside⟩ := (source.carry .trim i).strip_pad (i + 1) line
    refine ⟨blanks, padding, ?_, by simpa [carry, found] using inside⟩
    cases read : ((source.carry .trim i).strip .trim (i + 1) line).1 <;>
      simp [stripped?, found, carry_pad, same, read, Except.map, Except.toOption]

theorem blankAt_pad (source : Source) (i : Nat) :
    source.blankAt .pad i = source.blankAt .trim i := by
  obtain ⟨blanks, padding, same, _⟩ := source.stripped?_pad i
  cases found : source.stripped? .trim i <;>
    simp [blankAt, same, found, StrippedLine.isEmpty_append padding]

theorem filledAt_pad (source : Source) (i : Nat) :
    source.filledAt .pad i = source.filledAt .trim i := by
  obtain ⟨blanks, padding, same, _⟩ := source.stripped?_pad i
  cases found : source.stripped? .trim i <;>
    simp [filledAt, same, found, StrippedLine.isEmpty_append padding]

end Source

/-- The same lines have to be pulled. -/
theorem Settles.pad {source : Source} (settles : Settles source .trim count n) :
    Settles source .pad count n := by
  have blank := funext source.blankAt_pad
  have filled := funext source.filledAt_pad
  cases settles with
  | empty blanks => exact .empty (by rwa [blank])
  | decided earlier behind last between =>
    exact .decided (by rwa [filled]) behind (by rwa [filled]) (by rwa [blank])
  | ended earlier within behind ends =>
    exact .ended (by rwa [filled]) within (by rwa [blank]) ends

/-- What the two runs over the same lines have in common: they accept the same lines in the same
roles, and answer as many of them before the same fault. -/
theorem processLines_tails (strict : Bool) (lines : List String) :
    let trim := processLines { tail := .trim, strict } lines
    let pad := processLines { tail := .pad, strict } lines
    ∃ accepted behind trimmed padded final closing,
      lines = accepted ++ behind ∧
      Tracker.Trace { tail := .trim, strict } {} accepted trimmed final ∧
      Tracker.Trace { tail := .pad, strict } {} accepted padded final ∧
      padded.map Event.bare = trimmed.map Event.bare ∧
      trim.lines <+: delivered closing trimmed ∧ pad.lines <+: delivered closing padded ∧
      pad.lines.length = trim.lines.length ∧ pad.fault? = trim.fault? := by
  intro trim pad
  cases failed : trim.fault? with
  | none =>
    obtain ⟨trimmed, final, trace, closed, answered⟩ := trace_of_processLines failed
    obtain ⟨padded, traceToo, roles⟩ := trace.tail .pad
    have whole : pad = _ := processLines_of_trace traceToo closed
    refine ⟨lines, [], trimmed, padded, final, closers final.levels.depth, by simp, trace, traceToo,
      roles, ?_, ?_, ?_, ?_⟩
    · exact answered ▸ List.prefix_refl _
    · exact whole ▸ List.prefix_refl _
    · rw [whole, answered, length_delivered, length_delivered]
      simpa using congrArg List.length roles
    · rw [whole]
  | some fault =>
    have foreseen : trim = Session.foresee { tail := .trim, strict } {} {} lines :=
      processLines_eq_foresee _ lines
    rw [foreseen] at failed
    obtain ⟨accepted, behind, trimmed, final, rfl, trace, ready, fails⟩ :=
      Session.fails_of_foresee failed
    rw [← foreseen] at ready
    obtain ⟨padded, traceToo, roles⟩ := trace.tail .pad
    have stopped : pad = ⟨(Holdback.takeAll padded).ready, some fault⟩ := by
      have foreseenToo : pad = Session.foresee { tail := .pad, strict } {} {} (accepted ++ behind) :=
        processLines_eq_foresee _ _
      rw [foreseenToo, Session.foresee_of_fails traceToo behind (fails.tail .pad) {}]
      rfl
    have taken : trim.lines = (Holdback.takeAll trimmed).ready := ready
    refine ⟨accepted, behind, trimmed, padded, final, closers 0, rfl, trace, traceToo, roles, ?_, ?_,
      ?_, ?_⟩
    · rw [taken]
      exact Holdback.ready_takeAll_prefix_delivered 0 trimmed
    · rw [stopped]
      exact Holdback.ready_takeAll_prefix_delivered 0 padded
    · rw [stopped, taken]
      exact Holdback.length_ready_takeAll_congr roles
    · rw [stopped]

/-- The tail of a comment only pads. Call by call the two runs pull the same lines and answer the
same fault, or both the end, or both the same line with the same delimiter, but for spaces and tabs
in front of the delimiter, which stand there only when the line starts or ends inside a block
comment. -/
theorem tail_is_cosmetic (strict : Bool) (lines : List String) (call : Nat) :
    let source := Source.ofArray lines.toArray
    let trim := replies { tail := .trim, strict } lines call
    let pad := replies { tail := .pad, strict } lines call
    trim.pulled = pad.pulled ∧
    ((∃ (trimmed : StrippedLine) (blanks delimiter : String),
        source.stripped? .trim call = some trimmed ∧
        source.stripped? .pad call = some (trimmed.append blanks) ∧
        (∀ c ∈ blanks.toList, c = ' ' ∨ c = '\t') ∧
        ((source.carry .trim call).mode.inBlockComment = true ∨
          (source.carry .trim (call + 1)).mode.inBlockComment = true ∨ blanks = "") ∧
        trim.answer? = some (.line (trimmed.text ++ delimiter)) ∧
        pad.answer? = some (.line (trimmed.text ++ blanks ++ delimiter))) ∨
      (∃ fault, trim.answer? = some (.fault fault) ∧ pad.answer? = some (.fault fault)) ∨
      (trim.answer? = some .ended ∧ pad.answer? = some .ended)) := by
  intro source trim pad
  -- The texts are those of the source; the two runs only have to agree on the delimiters.
  obtain ⟨accepted, behind, trimmed, padded, final, closing, rfl, trace, traceToo, roles, front,
    frontToo, length, fault?⟩ := processLines_tails strict lines
  have begins : source.Begins accepted := Source.begins_ofArray accepted behind
  refine ⟨(pulled_replies_congr Settles.pad length.symm fault?.symm call), ?_⟩
  simp only [trim, pad, answer?_replies, Option.some.injEq]
  rcases Nat.lt_or_ge call (processLines { tail := .trim, strict } (accepted ++ behind)).lines.length
    with before | behindAll
  · obtain ⟨event, known, given⟩ := Outcome.answer_of_prefix front before
    obtain ⟨other, knownToo, givenToo⟩ := Outcome.answer_of_prefix frontToo (length ▸ before)
    obtain ⟨stripped, found, _, text⟩ := trace.shows begins call event known
    obtain ⟨strippedToo, foundToo, _, textToo⟩ := traceToo.shows begins call other knownToo
    obtain ⟨blanks, padding, same, inside⟩ := source.stripped?_pad call
    have widened : strippedToo = stripped.append blanks := by
      rw [foundToo, found] at same
      simpa using same
    have delimiter : delimiterBehind closing padded call = delimiterBehind closing trimmed call := by
      rw [← delimiterBehind_bare, roles, delimiterBehind_bare]
    refine .inl ⟨stripped, blanks, delimiterBehind closing trimmed call, found, ?_, padding, inside,
      ?_, ?_⟩
    · rw [same, found, Option.map_some]
    · rw [given, text]
    · rw [givenToo, delimiter, ← textToo, widened]
      rfl
  · have same := Outcome.answer_of_le behindAll
    have sameToo := Outcome.answer_of_le (length ▸ behindAll)
    rw [fault?, length] at sameToo
    rw [same, sameToo]
    cases (processLines { tail := .trim, strict } (accepted ++ behind)).fault? with
    | none => exact .inr (.inr ⟨rfl, rfl⟩)
    | some fault =>
      dsimp only
      split
      · exact .inr (.inl ⟨fault, rfl, rfl⟩)
      · exact .inr (.inr ⟨rfl, rfl⟩)

example :
    processLines {} ["a /*b", "*/ ", "c"] = ⟨["a ;", "", "c"], none⟩ ∧
      processLines { tail := .pad } ["a /*b", "*/ ", "c"] = ⟨["a    ;", "   ", "c"], none⟩ := by
  decide +kernel

end Offside
