import Offside.Proofs.Forfeit

/-! A holdback in use: lines are taken in, and lines that are ready are asked for in between. All that
was handed out, with all that is ready, is what would be ready had nothing been handed out
(`carryOut_eq`), so that no line is lost, doubled or moved (`handed_out_in_order`). -/

namespace Offside.Holdback

/-- What can be asked of a holdback before the text ends. -/
inductive Call where
  /-- Take a line in. -/
  | accept (event : Event)
  /-- Hand a line out, if one is ready. -/
  | next
deriving DecidableEq, Repr

/-- The line that is taken in. -/
def Call.event? : Call → Option Event
  | accept event => some event
  | next => none

/-- Carries out the calls, one after the other: the lines handed out, and the holdback behind them. -/
def carryOut (holdback : Holdback) : List Call → List String × Holdback
  | [] => ([], holdback)
  | .accept event :: calls => (holdback.accept event).carryOut calls
  | .next :: calls =>
    match holdback.next? with
    | some (text, rest) =>
      let (texts, last) := rest.carryOut calls
      (text :: texts, last)
    | none => holdback.carryOut calls

theorem length_ready_next? {holdback rest : Holdback}
    (given : holdback.next? = some (text, rest)) : rest.ready.length < holdback.ready.length := by
  unfold next? at given
  split at given
  · simp at given
  · rename_i first ready waiting
    simp only [Option.some.injEq, Prod.mk.injEq] at given
    obtain ⟨-, rfl⟩ := given
    simp [waiting]

/-- Asks for lines until none is ready. -/
def drain (holdback : Holdback) : List String × Holdback :=
  match _ : holdback.next? with
  | some (text, rest) =>
    let (texts, last) := rest.drain
    (text :: texts, last)
  | none => ([], holdback)
termination_by holdback.ready.length
decreasing_by exact length_ready_next? ‹_›

theorem drain_eq (holdback : Holdback) :
    holdback.drain = (holdback.ready, { holdback with ready := [] }) := by
  obtain ⟨held, ready⟩ := holdback
  induction ready with
  | nil =>
    rw [drain]
    rfl
  | cons text ready ih =>
    rw [drain]
    simp [next?, ih]

/-- Behind the end of the text no line waits for its delimiter. -/
theorem held_finish (openLevels : Nat) (holdback : Holdback) :
    (holdback.finish openLevels).held = none := by
  cases held : holdback.held <;> simp [finish, release, held]

/-- Lines that stand before those that are ready do not matter to any number of lines. -/
theorem foldl_accept_append (front : List String) (events : List Event) (holdback : Holdback) :
    events.foldl (fun holdback event => holdback.accept event)
        { holdback with ready := front ++ holdback.ready } =
      let last := events.foldl (fun holdback event => holdback.accept event) holdback
      { last with ready := front ++ last.ready } := by
  induction events generalizing holdback with
  | nil => rfl
  | cons event events ih =>
    rw [List.foldl_cons, List.foldl_cons, accept_append]
    exact ih (holdback.accept event)

/-- Handing lines out in between changes nothing but who has them. -/
theorem carryOut_eq (calls : List Call) (holdback : Holdback) :
    { (holdback.carryOut calls).2 with
        ready := (holdback.carryOut calls).1 ++ (holdback.carryOut calls).2.ready } =
      (calls.filterMap Call.event?).foldl (fun holdback event => holdback.accept event) holdback := by
  induction calls generalizing holdback with
  | nil => rfl
  | cons call calls ih =>
    cases call with
    | accept event => exact ih (holdback.accept event)
    | next =>
      obtain ⟨held, ready⟩ := holdback
      cases ready with
      | nil => exact ih ⟨held, []⟩
      | cons text ready =>
        -- The line was first among those that are ready, and the others go on without it.
        have front := foldl_accept_append [text] (calls.filterMap Call.event?) ⟨held, ready⟩
        rw [← ih ⟨held, ready⟩] at front
        exact front.symm

/-- Whatever the order in which lines are taken in and asked for, the lines come out one for each, in
their order, each with the text that the next line of code puts behind it. At any time those that are
out or ready are the ones before the last line of code. The end of the text makes the holdback a
new one, apart from the lines that are still ready. -/
theorem handed_out_in_order (calls : List Call) (openLevels : Nat) :
    let events := calls.filterMap Call.event?
    let early := (carryOut {} calls).1
    let holdback := (carryOut {} calls).2
    let finished := holdback.finish openLevels
    early ++ finished.drain.1 = delivered (closers openLevels) events ∧
    (∃ settled, IsSettled (Event.filledAt events) events.length settled ∧
      early ++ holdback.ready = (delivered (closers openLevels) events).take settled) ∧
    finished.drain.2 = {} ∧ finished = { ready := finished.ready } ∧
    ∀ later, (finished.carryOut later).2.held = (carryOut {} later).2.held ∧
      (finished.carryOut later).1 ++ (finished.carryOut later).2.ready =
        finished.ready ++ (carryOut {} later).1 ++ (carryOut {} later).2.ready := by
  intro events early holdback finished
  have taken : { holdback with ready := early ++ holdback.ready } = takeAll events :=
    carryOut_eq calls {}
  have empty : finished = { ready := finished.ready } :=
    congrArg (Holdback.mk · finished.ready) (held_finish openLevels holdback)
  refine ⟨?_, ⟨(takeAll events).ready.length, isSettled_takeAll events, ?_⟩, ?_, empty, ?_⟩
  · have all := ready_finish openLevels events {}
    change ((takeAll events).finish openLevels).ready = _ at all
    rw [← taken, finish_append] at all
    rw [drain_eq]
    simpa [heldLines] using all
  · have ready : early ++ holdback.ready = (takeAll events).ready := congrArg ready taken
    rw [ready]
    exact List.prefix_iff_eq_take.mp (ready_takeAll_prefix_delivered openLevels events)
  · rw [drain_eq, empty]
  · intro later
    have fresh := carryOut_eq later {}
    have front := carryOut_eq later finished
    have same := foldl_accept_append finished.ready (later.filterMap Call.event?) {}
    rw [List.append_nil, ← empty, ← front, ← fresh] at same
    simp only [Holdback.mk.injEq] at same
    exact ⟨same.1, by rw [same.2, List.append_assoc]⟩

end Offside.Holdback
