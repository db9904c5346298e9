import Offside.Proofs.Batch
import Offside.Proofs.Laziness

/-! What a run answers before it meets a fault. The lines that the accepted lines settle are
answered, whatever stands behind them (`Session.answer?_of_ready`); the last line of code and the
blanks behind it are forfeited (`answered_before_fault`). -/

namespace Offside

variable {options : Options} {source : Source}

namespace Tracker

/-- The first of the lines that follow, or the end of the text, is rejected with the fault. -/
def Rejects (options : Options) (fault : Fault) (tracker : Tracker) : List String → Prop
  | [] => tracker.finish.1 = .error fault
  | line :: _ => (tracker.step options (tracker.lastLine + 1) line).1 = .error fault

variable {tracker next final : Tracker} {lines more : List String}
variable {events all : List Event}

/-- A run over more lines begins with the run over the first of them. -/
theorem Trace.behind (whole : Trace options tracker (lines ++ more) all final)
    (trace : Trace options tracker lines events next) :
    ∃ later, all = events ++ later ∧ Trace options next more later final := by
  induction trace generalizing all with
  | done => exact ⟨all, rfl, whole⟩
  | @step line event lines events _ tracker middle passed rest ih =>
    cases whole with
    | @step _ other _ all _ _ _ passedAgain whole =>
      rw [passed] at passedAgain
      simp only [Prod.mk.injEq, Except.ok.injEq] at passedAgain
      obtain ⟨rfl, rfl⟩ := passedAgain
      obtain ⟨later, rfl, trace⟩ := ih whole
      exact ⟨later, rfl, trace⟩

end Tracker

/-- Of two beginnings of a source the shorter one is the beginning of the longer one. -/
theorem Source.Begins.split {first second : List String} (begins : source.Begins first)
    (longer : source.Begins second) (short : first.length ≤ second.length) :
    ∃ behind, second = first ++ behind := by
  refine ⟨second.drop first.length, ?_⟩
  have same : second.take first.length = first := by
    apply List.ext_getElem?
    intro i
    rcases Nat.lt_or_ge i first.length with before | after
    · have known := List.getElem?_eq_getElem before
      have alike := List.getElem?_eq_getElem (Nat.lt_of_lt_of_le before short)
      rw [List.getElem?_take_of_lt before, known, alike, ← longer i _ alike, ← begins i _ known]
    · rw [List.getElem?_eq_none after, List.getElem?_eq_none]
      exact Nat.le_trans (List.length_take_le _ _) after
  conv => lhs; rw [← List.take_append_drop first.length second, same]

namespace Holdback

/-- Lines that are ready stay in front of all that get ready later. -/
theorem ready_prefix_accept (event : Event) (holdback : Holdback) :
    holdback.ready <+: (holdback.accept event).ready := by
  cases event with
  | blank text => cases held : holdback.held <;> simp [accept, held]
  | nested text => simp [accept, hold, ready_release]
  | content text shift => simp [accept, hold, ready_release]

theorem ready_prefix_foldl (events : List Event) (holdback : Holdback) :
    holdback.ready <+:
      (events.foldl (fun holdback event => holdback.accept event) holdback).ready := by
  induction events generalizing holdback with
  | nil => exact List.prefix_refl _
  | cons event events ih => exact (ready_prefix_accept event holdback).trans (ih _)

theorem ready_takeAll_prefix (events later : List Event) :
    (takeAll events).ready <+: (takeAll (events ++ later)).ready := by
  rw [takeAll, takeAll, List.foldl_append]
  exact ready_prefix_foldl later _

end Holdback

namespace Session

variable {answered accepted : List String} {session : Session} {events : List Event}
variable {tracker : Tracker}

/-- A session that has pulled accepted lines only stands at a point of the run over them. -/
theorem Stage.within (begins : source.Begins accepted)
    (trace : Tracker.Trace options {} accepted events tracker)
    (stage : Stage source options answered session) (asking : session.ended = false)
    (within : session.pulled ≤ accepted.length) :
    ∃ (lines more : List String) (seen later : List Event),
      session.options = options ∧ session.pulled = lines.length ∧ accepted = lines ++ more ∧
      events = seen ++ later ∧ session.tracker.lastLine = session.pulled ∧
      Tracker.Trace options session.tracker more later tracker ∧
      Holdback.takeAll seen =
        { session.holdback with ready := answered ++ session.holdback.ready } := by
  cases stage with
  | finished ended => simp [asking] at ended
  | @running lines seen _ chosen pulled beginsSeen traceSeen taken lazy =>
    obtain ⟨more, rfl⟩ := beginsSeen.split begins (by omega)
    obtain ⟨later, rfl, rest⟩ := trace.behind traceSeen
    refine ⟨lines, more, seen, later, chosen, pulled, rfl, rfl, ?_, rest, taken⟩
    rw [traceSeen.lastLine_start, pulled]

/-- A line that is ready is the one that is due. -/
theorem Stage.first_of_due (begins : source.Begins accepted)
    (trace : Tracker.Trace options {} accepted events tracker)
    (stage : Stage source options answered session) (asking : session.ended = false)
    (within : session.pulled ≤ accepted.length)
    (due : (Holdback.takeAll events).ready[answered.length]? = some text)
    (waiting : session.holdback.ready = first :: others) : first = text := by
  obtain ⟨_, _, seen, later, _, _, _, rfl, _, _, taken⟩ := stage.within begins trace asking within
  obtain ⟨rest, whole⟩ := Holdback.ready_takeAll_prefix seen later
  rw [taken, waiting] at whole
  rw [← whole] at due
  simpa using due

/-- As long as a line is due and none is ready, there is an accepted line left to take. -/
theorem Stage.take_of_due (begins : source.Begins accepted)
    (trace : Tracker.Trace options {} accepted events tracker)
    (stage : Stage source options answered session) (asking : session.ended = false)
    (within : session.pulled ≤ accepted.length)
    (due : (Holdback.takeAll events).ready[answered.length]? = some text)
    (empty : session.holdback.ready = []) :
    ∃ next, Move source session (none, next) ∧ next.ended = false ∧
      next.pulled = session.pulled + 1 ∧ next.pulled ≤ accepted.length := by
  obtain ⟨lines, more, seen, later, chosen, pulled, rfl, rfl, numbered, rest, taken⟩ :=
    stage.within begins trace asking within
  cases rest with
  | done =>
    rw [List.append_nil, taken, empty] at due
    simp at due
  | @step line event more later _ _ next passed rest =>
    have found : source session.pulled = some line := by
      rw [pulled]
      exact begins lines.length line (by simp)
    rw [← chosen, numbered] at passed
    refine ⟨_, .take empty asking found passed, asking, rfl, ?_⟩
    simp only [pulled, List.length_append, List.length_cons]
    omega

/-- A line that the accepted lines settle is answered, and no line behind them is pulled for it. -/
theorem Stage.next?_of_ready (begins : source.Begins accepted)
    (trace : Tracker.Trace options {} accepted events tracker)
    (stage : Stage source options answered session) (asking : session.ended = false)
    (within : session.pulled ≤ accepted.length)
    (due : (Holdback.takeAll events).ready[answered.length]? = some text)
    (enough : accepted.length - session.pulled < fuel) :
    ∃ next, session.next? source fuel = (some (.line text), next) ∧ next.ended = false ∧
      next.pulled ≤ accepted.length := by
  -- The same line stays due while lines are taken, because nothing is answered in between.
  induction fuel generalizing session with
  | zero => omega
  | succ fuel ih =>
    cases waiting : session.holdback.ready with
    | cons first others =>
      obtain rfl := stage.first_of_due begins trace asking within due waiting
      exact ⟨_, (Move.hand waiting).next?_answer fuel, asking, within⟩
    | nil =>
      obtain ⟨next, move, later, pulled, bound⟩ :=
        stage.take_of_due begins trace asking within due waiting
      rw [move.next?_silent]
      exact ih (stage.silent move) later bound (by omega)

/-- A run over any source that begins with the accepted lines answers what these settle. -/
theorem Stage.answer?_of_ready (begins : source.Begins accepted)
    (trace : Tracker.Trace options {} accepted events tracker) (enough : accepted.length < fuel)
    (stage : Stage source options answered session) (asking : session.ended = false)
    (within : session.pulled ≤ accepted.length)
    (due : (Holdback.takeAll events).ready[answered.length + call]? = some text) :
    (session.reply source fuel call).answer? = some (.line text) := by
  induction call generalizing session answered with
  | zero =>
    obtain ⟨next, given, _⟩ := stage.next?_of_ready begins trace asking within due
      (by omega : accepted.length - session.pulled < fuel)
    simp [reply, Session.after, given]
  | succ call ih =>
    have here : answered.length < (Holdback.takeAll events).ready.length := by
      have := (List.getElem?_eq_some_iff.mp due).1
      omega
    obtain ⟨next, given, later, bound⟩ := stage.next?_of_ready begins trace asking within
      (List.getElem?_eq_getElem here) (by omega : accepted.length - session.pulled < fuel)
    have reached : Stage source options (answered ++ [_]) next := (stage.next? given).1
    have rest := ih reached later bound (by
      rw [List.length_append, List.length_singleton, Nat.add_assoc, Nat.add_comm 1, due])
    simpa [reply, Session.after, given] using rest

/-- What a run from any point answers before the fault that ends it. -/
theorem fails_of_foresee {tracker : Tracker} {holdback : Holdback} {lines : List String}
    {fault : Fault} (failed : (foresee options tracker holdback lines).fault? = some fault) :
    ∃ accepted behind events next, lines = accepted ++ behind ∧
      Tracker.Trace options tracker accepted events next ∧
      (foresee options tracker holdback lines).lines =
        (events.foldl (fun holdback event => holdback.accept event) holdback).ready ∧
      next.Rejects options fault behind := by
  induction lines generalizing tracker holdback with
  | nil =>
    unfold foresee at failed ⊢
    split at failed
    · simp at failed
    · rename_i reason ended refused
      obtain rfl : reason = fault := by simpa using failed
      exact ⟨[], [], [], tracker, rfl, .done, rfl, congrArg Prod.fst refused⟩
  | cons line lines ih =>
    unfold foresee at failed ⊢
    split at failed
    · rename_i event next passed
      obtain ⟨accepted, behind, events, final, split, trace, ready, fails⟩ := ih failed
      refine ⟨line :: accepted, behind, event :: events, final, ?_, .step passed trace, ready, fails⟩
      rw [split, List.cons_append]
    · rename_i reason next rejected
      obtain rfl : reason = fault := by simpa using failed
      exact ⟨[], line :: lines, [], tracker, rfl, .done, rfl, congrArg Prod.fst rejected⟩

/-- A run answers before a fault what it has ready there. -/
theorem foresee_of_fails {tracker next : Tracker} {fault : Fault}
    (trace : Tracker.Trace options tracker accepted events next) (behind : List String)
    (fails : next.Rejects options fault behind) (holdback : Holdback) :
    foresee options tracker holdback (accepted ++ behind) =
      ⟨(events.foldl (fun holdback event => holdback.accept event) holdback).ready, some fault⟩ := by
  induction trace generalizing holdback with
  | @done tracker =>
    cases behind with
    | nil =>
      have refused : tracker.finish = (.error fault, tracker.finish.2) := Prod.ext fails rfl
      rw [List.nil_append, foresee, refused]
      rfl
    | cons line rest =>
      have rejected : tracker.step options (tracker.lastLine + 1) line =
          (.error fault, (tracker.step options (tracker.lastLine + 1) line).2) := Prod.ext fails rfl
      rw [List.nil_append, foresee, rejected]
      rfl
  | step passed _ ih =>
    rw [List.cons_append, foresee, passed]
    exact ih fails (holdback.accept _)

end Session

theorem Source.begins_ofArray (first behind : List String) :
    (Source.ofArray (first ++ behind).toArray).Begins first := by
  intro i line known
  have within := (List.getElem?_eq_some_iff.mp known).1
  simp [Source.ofArray, List.getElem?_append_left within, known]

/-- What rejects the lines behind a run over the first lines makes the run over all of them fail. -/
theorem Tracker.Rejects.fails {accepted behind : List String} {events : List Event}
    {tracker : Tracker} {fault : Fault} (rejects : tracker.Rejects options fault behind)
    (trace : Trace options {} accepted events tracker) :
    (Source.ofArray (accepted ++ behind).toArray).Fails options accepted fault fault.line := by
  have begins := Source.begins_ofArray accepted behind
  obtain ⟨pulled, fails⟩ : ∃ pulled,
      (Source.ofArray (accepted ++ behind).toArray).Fails options accepted fault pulled := by
    cases behind with
    | nil => exact ⟨_, .unclosed begins trace (by simp [Source.ofArray]) rejects⟩
    | cons line rest =>
      rw [Rejects, trace.lastLine_start] at rejects
      exact ⟨_, .rejected begins trace (by simp [Source.ofArray]) rejects⟩
  rwa [fails.line]

theorem filledAt_roles (lines : List StrippedLine) (shifts : List Shift) (i : Nat) :
    Event.filledAt (roles lines shifts) i = filledAt lines i := by
  induction lines generalizing shifts i with
  | nil => rfl
  | cons line lines ih =>
    obtain ⟨event, split, _, blank, _⟩ := roles_cons line lines shifts
    rw [split]
    cases i with
    | zero => simp [Event.filledAt, filledAt, blank]
    | succ i => exact ih _ i

/-- The lines that are ready do not depend on how the text ends. -/
theorem Holdback.ready_takeAll_prefix_delivered (openLevels : Nat) (events : List Event) :
    (takeAll events).ready <+: delivered (closers openLevels) events := by
  have all := ready_finish openLevels events {}
  rw [finish, ready_release] at all
  exact ⟨_, all⟩

/-- Over given lines there are finitely many answered lines, then at most one fault, and then the end
for good. When there is a fault, the answered lines are those before the last line of code among the
accepted ones, or all accepted ones when there is no code; they are what a run without a fault would
answer in their places, and every source that begins with the accepted lines has the same
answered first, whatever follows. -/
theorem answered_before_fault (options : Options) (lines : List String) :
    let outcome := processLines options lines
    (∀ call, (replies options lines call).answer? = some (outcome.answer call)) ∧
    ∀ fault, outcome.fault? = some fault →
      ∃ accepted readings carry stripped shifts levels,
        (Source.ofArray lines.toArray).Fails options accepted fault fault.line ∧
        ({} : Carry).readLines options.tail 1 accepted = .ok (readings, carry) ∧
        stripped = readings.map Reading.stripped ∧
        ({} : Levels).observeAll (contentWidths stripped) = .ok (shifts, levels) ∧
        IsSettled (filledAt stripped) accepted.length outcome.lines.length ∧
        (∀ openLevels, outcome.lines <+: batch stripped shifts openLevels) ∧
        ∀ (source : Source) (fuel : Nat), source.Begins accepted → accepted.length < fuel →
          ∀ call < outcome.lines.length,
            (({ options } : Session).reply source fuel call).answer? =
              (replies options lines call).answer? := by
  intro outcome
  have answers (call : Nat) : (replies options lines call).answer? = some (outcome.answer call) :=
    answer?_replies options lines call
  refine ⟨answers, ?_⟩
  intro fault failed
  have foreseen : outcome = Session.foresee options {} {} lines :=
    processLines_eq_foresee options lines
  rw [foreseen] at failed
  obtain ⟨accepted, behind, events, tracker, rfl, trace, ready, rejects⟩ :=
    Session.fails_of_foresee failed
  rw [← foreseen] at ready
  obtain ⟨readings, shifts, read, observed, same⟩ := trace.readings
  have taken : outcome.lines = (Holdback.takeAll events).ready := ready
  have blanks (i : Nat) : Event.filledAt events i = filledAt (readings.map Reading.stripped) i := by
    rw [same, filledAt_roles]
  have settled := (Holdback.isSettled_takeAll events).congr fun i _ => blanks i
  rw [← taken, trace.length_events] at settled
  refine ⟨accepted, readings, tracker.carry, _, shifts, tracker.levels, rejects.fails trace, read,
    rfl, observed, settled, ?_, ?_⟩
  · intro openLevels
    rw [taken, ← delivered_roles openLevels (length_shifts observed), ← same]
    exact Holdback.ready_takeAll_prefix_delivered openLevels events
  · intro source fuel begins enough call before
    obtain ⟨text, due⟩ : ∃ text, outcome.lines[call]? = some text :=
      ⟨_, List.getElem?_eq_getElem before⟩
    have given : outcome.answer call = .line text := by simp [Outcome.answer, due]
    rw [answers, given]
    rw [taken] at due
    exact (Session.stage_start source options).answer?_of_ready begins trace enough rfl
      (Nat.zero_le _) (by simpa using due)

end Offside
