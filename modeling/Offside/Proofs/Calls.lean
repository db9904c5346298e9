import Offside.Proofs.Foresight

/-! The calls of a session, one after the other. `Session.Move` says once what a session can do;
what silent moves keep holds at every answer (`next?_induction`). After a fault or the end there is
nothing but the end (`next?_of_stopped`), and over given lines the answers are those of
`processLines` (`answer?_replies`). -/

namespace Offside

/-- What one call shows. -/
@[ext]
structure Reply where
  /-- The answer, if it came within the moves allowed. -/
  answer? : Option Answer
  /-- The number of lines pulled by then. -/
  pulled : Nat
deriving DecidableEq, Repr

/-- The answer to the call with the given number in a run with this outcome; calls count from
zero. -/
def Outcome.answer (outcome : Outcome) (call : Nat) : Answer :=
  match outcome.lines[call]?, outcome.fault? with
  | some text, _ => .line text
  | none, some fault => if call = outcome.lines.length then .fault fault else .ended
  | none, none => .ended

namespace Outcome

variable {outcome : Outcome} {fault : Fault}

theorem answer_of_lt (before : call < outcome.lines.length) :
    outcome.answer call = .line outcome.lines[call] := by
  simp [answer, List.getElem?_eq_getElem before]

theorem answer_eq_fault_iff :
    outcome.answer call = .fault fault ↔
      call = outcome.lines.length ∧ outcome.fault? = some fault := by
  unfold answer
  split
  · rename_i text given
    have before := (List.getElem?_eq_some_iff.mp given).1
    simp [Nat.ne_of_lt before]
  · rename_i found missing failed
    split <;> simp_all
  · rename_i missing failed
    simp [failed]

/-- Behind the lines there is the fault, if there is one, and then the end. -/
theorem answer_of_le (behind : outcome.lines.length ≤ call) :
    outcome.answer call =
      match outcome.fault? with
      | some fault => if call = outcome.lines.length then .fault fault else .ended
      | none => .ended := by
  unfold answer
  rw [List.getElem?_eq_none behind]
  cases outcome.fault? <;> rfl

end Outcome

namespace Session

/-- The session behind the given number of calls, with at most `fuel` moves for each. -/
def after (source : Source) (fuel : Nat) (session : Session) : (calls : Nat) → Session
  | 0 => session
  | calls + 1 => (session.next? source fuel).2.after source fuel calls

/-- What the call with the given number shows. -/
def reply (source : Source) (fuel : Nat) (session : Session) (call : Nat) : Reply :=
  let (answer?, next) := (session.after source fuel call).next? source fuel
  { answer?, pulled := next.pulled }

/-- The first calls answer lines. -/
def AnswersLines (source : Source) (fuel : Nat) (session : Session) (calls : Nat) : Prop :=
  ∀ call < calls, ∃ text, (session.reply source fuel call).answer? = some (.line text)

/-- Nothing is left to answer and the source will not be asked again. -/
def Stopped (session : Session) : Prop :=
  session.ended = true ∧ session.holdback.ready = []

/-- What one move can do. -/
inductive Move (source : Source) (session : Session) : Option Answer × Session → Prop where
  | hand {text : String} {rest : List String} (waiting : session.holdback.ready = text :: rest) :
      Move source session
        (some (.line text), { session with holdback := { session.holdback with ready := rest } })
  | rest (stopped : session.Stopped) : Move source session (some .ended, session)
  | take {line : String} {event : Event} {tracker : Tracker} (empty : session.holdback.ready = [])
      (running : session.ended = false) (found : source session.pulled = some line)
      (passed : session.tracker.step session.options (session.pulled + 1) line =
        (.ok event, tracker)) :
      Move source session
        (none, { session with
          tracker, holdback := session.holdback.accept event, pulled := session.pulled + 1 })
  | reject {line : String} {fault : Fault} {tracker : Tracker} (empty : session.holdback.ready = [])
      (running : session.ended = false) (found : source session.pulled = some line)
      (rejected : session.tracker.step session.options (session.pulled + 1) line =
        (.error fault, tracker)) :
      Move source session
        (some (.fault fault), { session with tracker, pulled := session.pulled + 1 }.abandon)
  | close {openLevels : Nat} {tracker : Tracker} (empty : session.holdback.ready = [])
      (running : session.ended = false) (exhausted : source session.pulled = none)
      (passed : session.tracker.finish = (.ok openLevels, tracker)) :
      Move source session
        (none, { session with
          tracker, holdback := session.holdback.finish openLevels, ended := true })
  | refuse {fault : Fault} {tracker : Tracker} (empty : session.holdback.ready = [])
      (running : session.ended = false) (exhausted : source session.pulled = none)
      (rejected : session.tracker.finish = (.error fault, tracker)) :
      Move source session (some (.fault fault), { session with tracker, ended := true }.abandon)

variable {source : Source} {session next : Session} {answer : Answer}

theorem move_advance (source : Source) (session : Session) :
    Move source session (session.advance source) := by
  unfold advance
  cases waiting : session.holdback.ready with
  | cons text rest =>
    simp only [Holdback.next?, waiting]
    exact .hand waiting
  | nil =>
    simp only [Holdback.next?, waiting]
    split
    · rename_i ended
      exact .rest ⟨ended, waiting⟩
    · rename_i running
      have running : session.ended = false := by simpa using running
      unfold pull
      cases found : source session.pulled with
      | some line =>
        dsimp only
        split
        · rename_i event tracker passed
          exact .take waiting running found passed
        · rename_i fault tracker rejected
          exact .reject waiting running found rejected
      | none =>
        dsimp only
        split
        · rename_i openLevels tracker passed
          exact .close waiting running found passed
        · rename_i fault tracker rejected
          exact .refuse waiting running found rejected

theorem advance_of_move {moved : Option Answer × Session} (move : Move source session moved) :
    session.advance source = moved := by
  cases move with
  | hand waiting => simp [advance, Holdback.next?, waiting]
  | rest stopped => simp [advance, Holdback.next?, stopped.1, stopped.2]
  | take empty running found passed =>
    simp [advance, Holdback.next?, empty, running, pull, found, passed]
  | reject empty running found rejected =>
    simp [advance, Holdback.next?, empty, running, pull, found, rejected]
  | close empty running exhausted passed =>
    simp [advance, Holdback.next?, empty, running, pull, exhausted, passed]
  | refuse empty running exhausted rejected =>
    simp [advance, Holdback.next?, empty, running, pull, exhausted, rejected]

theorem Move.next?_answer (move : Move source session (some answer, next)) (fuel : Nat) :
    session.next? source (fuel + 1) = (some answer, next) := by
  rw [next?, advance_of_move move]

theorem Move.next?_silent (move : Move source session (none, next)) (fuel : Nat) :
    session.next? source (fuel + 1) = next.next? source fuel := by
  rw [next?, advance_of_move move]

/-- What silent moves keep holds where the answer is given. -/
theorem next?_induction (Kept : Session → Prop) (Given : Answer → Session → Prop)
    (silent : ∀ {session next}, Kept session → Move source session (none, next) → Kept next)
    (answering : ∀ {session answer next}, Kept session →
      Move source session (some answer, next) → Given answer next)
    (kept : Kept session) (answered : session.next? source fuel = (some answer, next)) :
    Given answer next := by
  induction fuel generalizing session with
  | zero => simp [next?] at answered
  | succ fuel ih =>
    have move := move_advance source session
    unfold next? at answered
    split at answered
    · rename_i moved
      rw [moved, answered] at move
      exact answering kept move
    · rename_i moved
      rw [moved] at move
      exact ih (silent kept move) answered

theorem next?_of_stopped (stopped : session.Stopped) (source : Source) (fuel : Nat) :
    session.next? source (fuel + 1) = (some .ended, session) :=
  (Move.rest stopped).next?_answer fuel

/-- A session that answered anything but a line has stopped. -/
theorem stopped_of_next? (answered : session.next? source fuel = (some answer, next))
    (last : ∀ text, answer ≠ .line text) : next.Stopped := by
  refine next?_induction (fun _ => True)
    (fun answer next => (∀ text, answer ≠ .line text) → next.Stopped)
    (fun _ _ => trivial) ?_ trivial answered last
  intro session answer next _ move last
  cases move with
  | hand => exact absurd rfl (last _)
  | rest stopped => exact stopped
  | reject => exact ⟨rfl, rfl⟩
  | refuse => exact ⟨rfl, rfl⟩

theorem after_add (source : Source) (fuel : Nat) (session : Session) (first second : Nat) :
    session.after source fuel (first + second) =
      (session.after source fuel first).after source fuel second := by
  induction first generalizing session with
  | zero => rw [Nat.zero_add, after]
  | succ first ih =>
    rw [Nat.succ_add, after, after]
    exact ih _

theorem after_succ (source : Source) (fuel : Nat) (session : Session) (calls : Nat) :
    session.after source fuel (calls + 1) =
      ((session.after source fuel calls).next? source fuel).2 :=
  after_add source fuel session calls 1

theorem reply_add (source : Source) (fuel : Nat) (session : Session) (first second : Nat) :
    session.reply source fuel (first + second) =
      (session.after source fuel first).reply source fuel second := by
  simp only [reply, after_add]

theorem reply_of_stopped (stopped : session.Stopped) (source : Source) (fuel call : Nat) :
    session.reply source (fuel + 1) call = ⟨some .ended, session.pulled⟩ := by
  have same := next?_of_stopped stopped source fuel
  induction call with
  | zero => simp [reply, after, same]
  | succ call ih => simpa [reply, after, same] using ih

/-- Once a session has stopped, no call pulls more. -/
theorem pulled_reply_of_stopped {answer? : Option Answer}
    (given : session.next? source (fuel + 1) = (answer?, next)) (stopped : next.Stopped)
    (call : Nat) : (session.reply source (fuel + 1) call).pulled = next.pulled := by
  cases call with
  | zero => simp [reply, after, given]
  | succ call =>
    have later : session.reply source (fuel + 1) (call + 1) = next.reply source (fuel + 1) call := by
      simp [reply, after, given]
    rw [later, reply_of_stopped stopped]

/-- Over given lines every call answers, and what it answers is foreseen. -/
theorem answer?_reply (lines : List String) (inStep : session.InStep)
    (enough : session.moves lines ≤ fuel) (call : Nat) :
    (session.reply (.ofArray lines.toArray) fuel call).answer? =
      some ((session.foresight lines).answer call) := by
  obtain ⟨fuel, rfl⟩ : ∃ fewer, fuel = fewer + 1 := by
    refine ⟨fuel - 1, ?_⟩
    unfold moves at enough
    split at enough <;> omega
  induction call generalizing session with
  | zero =>
    obtain ⟨answer, next, answered, foretold⟩ := foretells_next? lines inStep enough
    simp only [reply, after, answered, Option.some.injEq]
    cases answer with
    | line text => simp [← foretold.2, Outcome.cons, Outcome.answer]
    | fault fault =>
      simp [show session.foresight lines = ⟨[], some fault⟩ from foretold, Outcome.answer]
    | ended => simp [show session.foresight lines = ⟨[], none⟩ from foretold, Outcome.answer]
  | succ call ih =>
    obtain ⟨answer, next, answered, foretold⟩ := foretells_next? lines inStep enough
    have later : session.reply (.ofArray lines.toArray) (fuel + 1) (call + 1) =
        next.reply (.ofArray lines.toArray) (fuel + 1) call := by
      simp [reply, after, answered]
    rw [later]
    cases answer with
    | line text =>
      have fewer := moves_next? lines (.ofArray lines.toArray) session (fuel + 1)
      rw [answered] at fewer
      rw [ih foretold.1 (Nat.le_trans fewer enough), ← foretold.2]
      simp [Outcome.cons, Outcome.answer]
    | fault fault =>
      have stopped := stopped_of_next? answered (by simp)
      simp [show session.foresight lines = ⟨[], some fault⟩ from foretold, Outcome.answer,
        reply_of_stopped stopped]
    | ended =>
      have stopped := stopped_of_next? answered (by simp)
      simp [show session.foresight lines = ⟨[], none⟩ from foretold, Outcome.answer,
        reply_of_stopped stopped]

end Session

/-- What the calls show in a run over all given lines. -/
def replies (options : Options) (lines : List String) (call : Nat) : Reply :=
  ({ options } : Session).reply (.ofArray lines.toArray) (Session.enough lines.toArray) call

/-- Every call over given lines is answered: the lines of the outcome first, then its fault, if it
has one, and then the end for good. -/
theorem answer?_replies (options : Options) (lines : List String) (call : Nat) :
    (replies options lines call).answer? = some ((processLines options lines).answer call) := by
  have foreseen : ({ options } : Session).foresight lines = processLines options lines := by
    simp [processLines_eq_foresee, Session.foresight]
  rw [← foreseen]
  exact Session.answer?_reply lines (fun _ => rfl) (by simp [Session.moves, Session.enough]) call

end Offside
