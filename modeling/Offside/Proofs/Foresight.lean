import Offside.Session
import Offside.Proofs.Delivery
import Offside.Proofs.Trace

/-! A session answers what it would answer had it read all its lines at once. `Session.foresight`
says what that is, every move keeps it (`foretells_advance`), and from there `processLines` follows
a `Tracker.Trace`. -/

namespace Offside

/-- One more line in front. -/
def Outcome.cons (text : String) (outcome : Outcome) : Outcome :=
  { outcome with lines := text :: outcome.lines }

namespace Session

/-- What is answered when all lines are read first. -/
def foresee (options : Options) (tracker : Tracker) (holdback : Holdback) : List String → Outcome
  | [] =>
    match tracker.finish with
    | (.ok openLevels, _) => ⟨(holdback.finish openLevels).ready, none⟩
    | (.error fault, _) => ⟨holdback.ready, some fault⟩
  | line :: lines =>
    match tracker.step options (tracker.lastLine + 1) line with
    | (.ok event, tracker) => foresee options tracker (holdback.accept event) lines
    | (.error fault, _) => ⟨holdback.ready, some fault⟩

/-- What a session over the lines still answers. -/
def foresight (lines : List String) (session : Session) : Outcome :=
  if session.ended then ⟨session.holdback.ready, none⟩
  else foresee session.options session.tracker session.holdback (lines.drop session.pulled)

/-- The last line that the tracker saw is the last one that was pulled. -/
def InStep (session : Session) : Prop :=
  session.ended = false → session.tracker.lastLine = session.pulled

/-- A move fits what is foreseen: it answers the next part of it, or it changes nothing. -/
def Foretells (lines : List String) (outcome : Outcome) : Option Answer × Session → Prop
  | (none, next) => next.InStep ∧ next.foresight lines = outcome
  | (some (.line text), next) => next.InStep ∧ (next.foresight lines).cons text = outcome
  | (some (.fault fault), _) => outcome = ⟨[], some fault⟩
  | (some .ended, _) => outcome = ⟨[], none⟩

/-- A bound on the moves before the next answer. -/
def moves (lines : List String) (session : Session) : Nat :=
  if session.ended then 1 else lines.length - session.pulled + 2

variable {options : Options} {lines : List String} {session : Session} {tracker : Tracker}

theorem foresee_ready (text : String) (ready : List String) (held : Option HeldLine) :
    foresee options tracker { held, ready := text :: ready } lines =
      (foresee options tracker { held, ready } lines).cons text := by
  have finish_cons (openLevels : Nat) (held : Option HeldLine) (ready : List String) :
      ((⟨held, text :: ready⟩ : Holdback).finish openLevels).ready =
        text :: ((⟨held, ready⟩ : Holdback).finish openLevels).ready := by
    simp [Holdback.finish, Holdback.ready_release, Holdback.heldLines]
  have accept_cons (event : Event) (held : Option HeldLine) (ready : List String) :
      ∃ laterHeld laterReady,
        (⟨held, text :: ready⟩ : Holdback).accept event = ⟨laterHeld, text :: laterReady⟩ ∧
        (⟨held, ready⟩ : Holdback).accept event = ⟨laterHeld, laterReady⟩ := by
    cases event <;> cases held <;> exact ⟨_, _, rfl, rfl⟩
  induction lines generalizing tracker held ready with
  | nil =>
    simp only [foresee]
    split <;> simp [Outcome.cons, finish_cons]
  | cons line lines ih =>
    simp only [foresee]
    split
    · rename_i event next _
      obtain ⟨laterHeld, laterReady, long, short⟩ := accept_cons event held ready
      rw [long, short, ih]
    · rfl

/-- Every move of a session fits what is foreseen. -/
theorem foretells_advance (lines : List String) (inStep : session.InStep) :
    Foretells lines (session.foresight lines) (session.advance (.ofArray lines.toArray)) := by
  obtain ⟨options, tracker, ⟨held, ready⟩, pulled, ended⟩ := session
  cases ready with
  | cons text ready =>
    refine ⟨inStep, ?_⟩
    cases ended
    · simp [foresight, foresee_ready]
    · simp [foresight, Outcome.cons]
  | nil =>
    cases ended with
    | true => simp [advance, Holdback.next?, Foretells, foresight]
    | false =>
      have numbered : tracker.lastLine = pulled := inStep rfl
      cases found : lines[pulled]? with
      | none =>
        have exhausted : lines.drop pulled = [] := by
          simpa using List.getElem?_eq_none_iff.mp found
        simp only [advance, Holdback.next?, pull, Source.ofArray, List.getElem?_toArray, found,
          foresight, exhausted, foresee]
        cases tracker.finish with
        | mk result ended => cases result <;> simp [Foretells, InStep, foresight, abandon]
      | some line =>
        have next : lines.drop pulled = line :: lines.drop (pulled + 1) := by
          obtain ⟨bound, same⟩ := List.getElem?_eq_some_iff.mp found
          rw [List.drop_eq_getElem_cons bound, same]
        have advanced := tracker.lastLine_step options (pulled + 1) line
        simp only [advance, Holdback.next?, pull, Source.ofArray, List.getElem?_toArray, found,
          foresight, next, foresee, numbered]
        cases stepped : tracker.step options (pulled + 1) line with
        | mk result tracker =>
          rw [stepped] at advanced
          cases result <;> simp_all [Foretells, InStep, foresight, abandon]

theorem moves_advance (lines : List String) (session : Session)
    (silent : (session.advance (.ofArray lines.toArray)).1 = none) :
    (session.advance (.ofArray lines.toArray)).2.moves lines < session.moves lines := by
  obtain ⟨options, tracker, ⟨held, ready⟩, pulled, ended⟩ := session
  cases ready with
  | cons text ready => simp [advance, Holdback.next?] at silent
  | nil =>
    cases ended with
    | true => simp [advance, Holdback.next?] at silent
    | false =>
      cases found : lines[pulled]? with
      | none =>
        simp only [advance, Holdback.next?, pull, Source.ofArray, List.getElem?_toArray, found] at *
        cases tracker.finish with
        | mk result ended => cases result <;> simp [moves, abandon]
      | some line =>
        have bound : pulled < lines.length := (List.getElem?_eq_some_iff.mp found).1
        simp only [advance, Holdback.next?, pull, Source.ofArray, List.getElem?_toArray, found] at *
        cases tracker.step options (pulled + 1) line with
        | mk result tracker =>
          cases result
          · simp [moves, abandon]
          · simp only [moves, Bool.false_eq_true, ↓reduceIte]
            omega

/-- A session that has moves enough answers, and what it answers is foreseen. -/
theorem foretells_next? (lines : List String) (inStep : session.InStep)
    (enough : session.moves lines ≤ fuel) :
    ∃ answer next, session.next? (.ofArray lines.toArray) fuel = (some answer, next) ∧
      Foretells lines (session.foresight lines) (some answer, next) := by
  induction fuel generalizing session with
  | zero =>
    unfold moves at enough
    split at enough <;> omega
  | succ fuel ih =>
    have foretold := foretells_advance lines inStep
    have fewer := moves_advance lines session
    unfold next?
    cases moved : session.advance (.ofArray lines.toArray) with
    | mk answer next =>
      rw [moved] at foretold fewer
      cases answer with
      | some answer => exact ⟨answer, next, rfl, foretold⟩
      | none =>
        obtain ⟨kept, same⟩ := foretold
        have enough : next.moves lines ≤ fuel := by
          have := fewer rfl
          simp only at this
          omega
        rw [← same]
        exact ih kept enough

private theorem pulled_advance (source : Source) (session : Session) :
    session.pulled ≤ (session.advance source).2.pulled ∧
      (session.ended = true → (session.advance source).2.ended = true) := by
  unfold advance
  split
  · exact ⟨Nat.le_refl _, id⟩
  · split
    · exact ⟨Nat.le_refl _, id⟩
    · rename_i running
      refine ⟨?_, fun stopped => absurd stopped running⟩
      unfold pull
      split
      · dsimp only
        split <;> exact Nat.le_succ _
      · dsimp only
        split <;> exact Nat.le_refl _

/-- The moves before an answer grow fewer as a session goes on. -/
theorem moves_next? (lines : List String) (source : Source) (session : Session) (fuel : Nat) :
    (session.next? source fuel).2.moves lines ≤ session.moves lines := by
  induction fuel generalizing session with
  | zero => exact Nat.le_refl _
  | succ fuel ih =>
    have step : (session.advance source).2.moves lines ≤ session.moves lines := by
      obtain ⟨later, stopped⟩ := pulled_advance source session
      unfold moves
      cases before : session.ended with
      | true => simp [stopped before]
      | false =>
        simp only [Bool.false_eq_true, ↓reduceIte]
        split <;> omega
    unfold next?
    split
    · rename_i answer next moved
      simpa only [moved] using step
    · rename_i next moved
      rw [moved] at step
      exact Nat.le_trans (ih next) step

/-- Calls enough collect all that is foreseen. -/
theorem collect_eq_foresight (lines : List String) (inStep : session.InStep)
    (enough : session.moves lines ≤ fuel)
    (calls : Nat) (longer : (session.foresight lines).lines.length < calls) :
    session.collect (.ofArray lines.toArray) fuel calls =
      ((session.foresight lines).lines, (session.foresight lines).fault?) := by
  induction calls generalizing session with
  | zero => omega
  | succ calls ih =>
    obtain ⟨answer, next, answered, foretold⟩ := foretells_next? lines inStep enough
    have fewer := moves_next? lines (.ofArray lines.toArray) session fuel
    rw [answered] at fewer
    unfold collect
    rw [answered]
    cases answer with
    | line text =>
      obtain ⟨kept, same⟩ := foretold
      rw [← same] at longer ⊢
      have shorter : (next.foresight lines).lines.length < calls := by
        simpa [Outcome.cons] using longer
      simp [ih kept (Nat.le_trans fewer enough) shorter, Outcome.cons]
    | fault fault => simp [show session.foresight lines = ⟨[], some fault⟩ from foretold]
    | ended => simp [show session.foresight lines = ⟨[], none⟩ from foretold]

theorem length_foresee_le (options : Options) (tracker : Tracker) (holdback : Holdback)
    (lines : List String) :
    (foresee options tracker holdback lines).lines.length ≤ holdback.size + lines.length := by
  induction lines generalizing tracker holdback with
  | nil =>
    unfold foresee
    split
    · exact Nat.le_of_eq (holdback.length_ready_finish _)
    · exact holdback.length_ready_le
  | cons line lines ih =>
    unfold foresee
    split
    · rename_i event next _
      refine Nat.le_trans (ih next (holdback.accept event)) ?_
      simp only [Holdback.size_accept, List.length_cons]
      omega
    · exact Nat.le_trans holdback.length_ready_le (Nat.le_add_right _ _)

/-- A run that meets no fault hands out the lines of a trace. -/
theorem foresee_of_trace (trace : Tracker.Trace options tracker lines events final)
    (closed : final.carry.mode.inBlockComment = false) (holdback : Holdback) :
    foresee options tracker holdback lines =
      ⟨((events.foldl (fun holdback event => holdback.accept event) holdback).finish
          final.levels.depth).ready, none⟩ := by
  induction trace generalizing holdback with
  | done => simp only [foresee, Tracker.finish_of_not_inBlockComment closed, List.foldl_nil]
  | step passed rest ih =>
    simp only [foresee, passed, List.foldl_cons]
    exact ih closed (holdback.accept _)

theorem trace_of_foresee (holdback : Holdback)
    (passed : (foresee options tracker holdback lines).fault? = none) :
    ∃ events final, Tracker.Trace options tracker lines events final ∧
      final.carry.mode.inBlockComment = false := by
  induction lines generalizing tracker holdback with
  | nil =>
    unfold foresee at passed
    split at passed
    · rename_i openLevels ended finished
      exact ⟨[], tracker, .done, (Tracker.finish_ok finished).1⟩
    · simp at passed
  | cons line lines ih =>
    unfold foresee at passed
    split at passed
    · rename_i event next stepped
      obtain ⟨events, final, trace, closed⟩ := ih (holdback.accept event) passed
      exact ⟨event :: events, final, .step stepped trace, closed⟩
    · simp at passed

end Session

theorem processLines_eq_foresee (options : Options) (lines : List String) :
    processLines options lines = Session.foresee options {} {} lines := by
  have inStep : ({ options } : Session).InStep := fun _ => rfl
  have foreseen : ({ options } : Session).foresight lines =
      Session.foresee options {} {} lines := by
    simp [Session.foresight]
  have enough : ({ options } : Session).moves lines ≤ Session.enough lines.toArray := by
    simp [Session.moves, Session.enough]
  have short : (({ options } : Session).foresight lines).lines.length <
      Session.enough lines.toArray := by
    have bound := Session.length_foresee_le options {} {} lines
    have empty : ({} : Holdback).size = 0 := rfl
    rw [foreseen, Session.enough, List.size_toArray]
    omega
  simp only [processLines,
    Session.collect_eq_foresight lines inStep enough _ short, foreseen]

/-- A run over a trace that does not end in a comment meets no fault and delivers the lines with
their delimiters. -/
theorem processLines_of_trace {options : Options} {lines : List String}
    (trace : Tracker.Trace options {} lines events final)
    (closed : final.carry.mode.inBlockComment = false) :
    processLines options lines = ⟨delivered (closers final.levels.depth) events, none⟩ := by
  rw [processLines_eq_foresee, Session.foresee_of_trace trace closed, Holdback.ready_finish]
  rfl

/-- A run that meets no fault follows a trace. -/
theorem trace_of_processLines {options : Options} {lines : List String}
    (passed : (processLines options lines).fault? = none) :
    ∃ events final, Tracker.Trace options {} lines events final ∧
      final.carry.mode.inBlockComment = false ∧
      (processLines options lines).lines = delivered (closers final.levels.depth) events := by
  rw [processLines_eq_foresee] at passed
  obtain ⟨events, final, trace, closed⟩ := Session.trace_of_foresee {} passed
  exact ⟨events, final, trace, closed, by rw [processLines_of_trace trace closed]⟩

end Offside
