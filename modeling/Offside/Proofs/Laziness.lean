import Offside.Proofs.Calls
import Offside.Proofs.Rejections
import Offside.Proofs.Settling

/-! A session pulls no line before it has to. `Session.Stage` is what is known of a session that has
answered some lines; a call answers from there a line that its last pulled line settles, or a fault
that its last pulled line causes, or the end (`Stage.next?`). -/

namespace Offside

/-- A run over the source accepts the given lines and then meets the fault; so many lines have been
pulled by then. -/
inductive Source.Fails (source : Source) (options : Options) (accepted : List String)
    (fault : Fault) : Nat → Prop where
  /-- The line behind them is rejected. -/
  | rejected {line : String} {events : List Event} {tracker : Tracker}
      (begins : source.Begins accepted) (trace : Tracker.Trace options {} accepted events tracker)
      (found : source accepted.length = some line)
      (rejects : (tracker.step options (accepted.length + 1) line).1 = .error fault) :
      Fails source options accepted fault (accepted.length + 1)
  /-- The source ends there and must not. -/
  | unclosed {events : List Event} {tracker : Tracker} (begins : source.Begins accepted)
      (trace : Tracker.Trace options {} accepted events tracker)
      (exhausted : source accepted.length = none) (refuses : tracker.finish.1 = .error fault) :
      Fails source options accepted fault accepted.length

variable {source : Source} {options : Options}

theorem Source.Begins.concat {lines : List String} (begins : source.Begins lines)
    (found : source lines.length = some line) : source.Begins (lines ++ [line]) := by
  intro i known same
  rcases Nat.lt_trichotomy i lines.length with before | last | behind
  · exact begins i known (by rwa [List.getElem?_append_left before] at same)
  · subst last
    simpa [found] using same
  · rw [List.getElem?_eq_none (by simp; omega)] at same
    simp at same

theorem Source.Begins.ends {lines : List String} (begins : source.Begins lines)
    (exhausted : source lines.length = none) : source.Ends lines.length := by
  refine ⟨exhausted, fun i below => ?_⟩
  simp [begins i lines[i] (List.getElem?_eq_getElem below)]

theorem Tracker.Trace.lastLine {tracker final : Tracker} {lines : List String}
    {events : List Event} (trace : Trace options tracker lines events final) :
    final.lastLine = tracker.lastLine + lines.length := by
  induction trace with
  | done => rfl
  | @step line event lines events final tracker next passed rest ih =>
    have numbered := lastLine_step options (tracker.lastLine + 1) line tracker
    rw [passed] at numbered
    rw [ih, numbered, List.length_cons]
    omega

theorem Tracker.Trace.lastLine_start {final : Tracker} {lines : List String} {events : List Event}
    (trace : Trace options {} lines events final) : final.lastLine = lines.length := by
  rw [trace.lastLine]
  exact Nat.zero_add _

/-- The last line pulled is the one that the fault names. -/
theorem Source.Fails.line {accepted : List String} {fault : Fault} {pulled : Nat}
    (fails : source.Fails options accepted fault pulled) : fault.line = pulled := by
  cases fails with
  | rejected _ _ _ rejects => exact (Tracker.step_error (Prod.ext rejects rfl)).1
  | unclosed _ trace _ refuses =>
    rw [(Tracker.finish_error (Prod.ext refuses rfl)).1, trace.lastLine_start]

/-- A comment that is left open is noticed where the source ends. -/
theorem Source.Fails.ends {accepted : List String} {fault : Fault} {pulled openedAt : Nat}
    (fails : source.Fails options accepted fault pulled)
    (unclosed : fault.cause = .unterminatedComment openedAt) : source.Ends pulled := by
  cases fails with
  | unclosed begins _ exhausted => exact begins.ends exhausted
  | rejected _ _ _ rejects =>
    exact absurd unclosed ((Tracker.step_error (Prod.ext rejects rfl)).2 openedAt)

theorem Tracker.Trace.concat {tracker next final : Tracker} {lines : List String}
    {events : List Event} (trace : Trace options tracker lines events next)
    (passed : next.step options (next.lastLine + 1) line = (.ok event, final)) :
    Trace options tracker (lines ++ [line]) (events ++ [event]) final :=
  trace.append (.step passed .done)

namespace Holdback

/-- Lines that stand before those that are ready do not matter to what is taken in. -/
theorem accept_append (front : List String) (event : Event) (holdback : Holdback) :
    accept event { holdback with ready := front ++ holdback.ready } =
      { holdback.accept event with ready := front ++ (holdback.accept event).ready } := by
  cases event <;> cases held : holdback.held <;> simp [accept, release, hold, held]

theorem finish_append (front : List String) (openLevels : Nat) (holdback : Holdback) :
    finish openLevels { holdback with ready := front ++ holdback.ready } =
      { holdback.finish openLevels with ready := front ++ (holdback.finish openLevels).ready } := by
  cases held : holdback.held <;> simp [finish, release, held]

end Holdback

namespace Session

/-- What is known of a session that has answered the given lines and nothing else. -/
inductive Stage (source : Source) (options : Options) (answered : List String)
    (session : Session) : Prop where
  /-- The lines pulled so far were accepted, and no line that they settle was settled before the
  last of them, except for lines that have been answered. -/
  | running {lines : List String} {events : List Event} (asking : session.ended = false)
      (chosen : session.options = options) (pulled : session.pulled = lines.length)
      (begins : source.Begins lines)
      (trace : Tracker.Trace options {} lines events session.tracker)
      (taken : Holdback.takeAll events =
        { session.holdback with ready := answered ++ session.holdback.ready })
      (lazy : (Holdback.takeAll events.dropLast).ready.length ≤ answered.length)
  /-- The source has ended, and only lines that it settled by ending are left. -/
  | finished {lines : List String} {events : List Event} {tracker : Tracker} {openLevels : Nat}
      (ended : session.ended = true) (pulled : session.pulled = lines.length)
      (begins : source.Begins lines) (exhausted : source lines.length = none)
      (trace : Tracker.Trace options {} lines events tracker)
      (closed : tracker.finish = (.ok openLevels, session.tracker))
      (taken : (Holdback.takeAll events).finish openLevels =
        { session.holdback with ready := answered ++ session.holdback.ready })
      (lazy : (Holdback.takeAll events).ready.length ≤ answered.length)

/-- What an answer behind the given lines shows about the lines pulled for it. -/
def Prompt (source : Source) (options : Options) (answered : List String) (answer : Answer)
    (next : Session) : Prop :=
  match answer with
  | .line text => Stage source options (answered ++ [text]) next ∧
      Settles source options.tail (answered.length + 1) next.pulled
  | .fault fault => next.pulled = fault.line ∧
      ∃ accepted, source.Fails options accepted fault next.pulled
  | .ended => source.Ends next.pulled

variable {answered : List String} {session next : Session}

theorem stage_start (source : Source) (options : Options) : Stage source options [] { options } :=
  @Stage.running source options [] { options } [] [] rfl rfl rfl (by simp [Source.Begins]) .done rfl
    (Nat.zero_le _)

/-- A line that the last line pulled made ready was settled by it. -/
theorem settles_of_ready {events : List Event} (shows : source.Shows options.tail events)
    (early : (Holdback.takeAll events.dropLast).ready.length < count)
    (late : count ≤ (Holdback.takeAll events).ready.length) :
    Settles source options.tail count events.length := by
  cases events using List.reverseRec with
  | nil =>
    simp [Holdback.takeAll] at late
    omega
  | append_singleton older last =>
    rw [List.dropLast_concat] at early
    have before := (Holdback.isSettled_takeAll older).congr
      fun i below => (Event.filledAt_concat_of_lt last below).symm
    have after := Holdback.isSettled_takeAll (older ++ [last])
    have length : (older ++ [last]).length = older.length + 1 := by simp
    rw [length] at after ⊢
    exact .of_last shows length before early after late

/-- Moves that answer nothing are made with nothing ready. -/
theorem Stage.silent (stage : Stage source options answered session)
    (move : Move source session (none, next)) : Stage source options answered next := by
  cases stage with
  | finished ended =>
    cases move with
    | take _ asking => simp [ended] at asking
    | close _ asking => simp [ended] at asking
  | @running lines events asking chosen pulled begins trace taken lazy =>
    have numbered : session.tracker.lastLine = session.pulled := by
      rw [trace.lastLine_start, pulled]
    cases move with
    | @take line event tracker empty _ found passed =>
      rw [pulled] at found
      rw [chosen, ← numbered] at passed
      refine .running asking chosen ?_ (begins.concat found) (trace.concat passed) ?_ ?_
      · simp [pulled]
      · rw [Holdback.takeAll_concat, taken, Holdback.accept_append]
      · simp [taken, empty]
    | @close openLevels tracker empty _ exhausted passed =>
      rw [pulled] at exhausted
      refine .finished rfl pulled begins exhausted trace passed ?_ ?_
      · rw [taken, Holdback.finish_append]
      · simp [taken, empty]

theorem Stage.answering (stage : Stage source options answered session)
    (move : Move source session (some answer, next)) :
    Prompt source options answered answer next := by
  cases stage with
  | @finished lines events tracker openLevels ended pulled begins exhausted trace closed taken lazy =>
    cases move with
    | @hand text rest waiting =>
      rw [waiting] at taken
      refine ⟨.finished ended pulled begins exhausted trace closed (by simpa using taken)
        (by simp; omega), ?_⟩
      -- What the end of the source makes ready is everything, so the line is among the lines read.
      have all : (answered ++ text :: rest).length = events.length := by
        rw [← Holdback.size_takeAll events, ← Holdback.length_ready_finish openLevels, taken]
      simp only [List.length_append, List.length_cons] at all
      rw [pulled, ← trace.length_events]
      refine .of_end (trace.shows begins) (Holdback.isSettled_takeAll events) (by omega)
        (by omega) ?_
      rw [trace.length_events]
      exact begins.ends exhausted
    | rest =>
      show source.Ends session.pulled
      rw [pulled]
      exact begins.ends exhausted
    | reject _ asking => simp [ended] at asking
    | refuse _ asking => simp [ended] at asking
  | @running lines events asking chosen pulled begins trace taken lazy =>
    cases move with
    | @hand text rest waiting =>
      rw [waiting] at taken
      refine ⟨.running asking chosen pulled begins trace (by simpa using taken)
        (by simp; omega), ?_⟩
      rw [pulled, ← trace.length_events]
      refine settles_of_ready (trace.shows begins) (by omega) ?_
      simp [taken]
    | rest stopped => simp [stopped.1] at asking
    | @reject line fault tracker _ _ found rejects =>
      rw [pulled] at found
      rw [chosen, pulled] at rejects
      have fails := Source.Fails.rejected begins trace found (congrArg Prod.fst rejects)
      rw [← pulled] at fails
      exact ⟨fails.line.symm, lines, fails⟩
    | @refuse fault tracker _ _ exhausted refuses =>
      rw [pulled] at exhausted
      have fails := Source.Fails.unclosed begins trace exhausted (congrArg Prod.fst refuses)
      rw [← pulled] at fails
      exact ⟨fails.line.symm, lines, fails⟩

/-- An answer shows that no line was pulled before it had to be. -/
theorem Stage.next? (stage : Stage source options answered session)
    (given : session.next? source fuel = (some answer, next)) :
    Prompt source options answered answer next :=
  next?_induction (Stage source options answered) (Prompt source options answered)
    Stage.silent Stage.answering stage given

theorem AnswersLines.zero (lines : session.AnswersLines source fuel (calls + 1)) :
    ∃ text next, session.next? source fuel = (some (.line text), next) := by
  obtain ⟨text, answered⟩ := lines 0 (Nat.succ_pos calls)
  refine ⟨text, (session.next? source fuel).2, ?_⟩
  rw [← show (session.next? source fuel).1 = some (.line text) from answered]

theorem AnswersLines.tail (lines : session.AnswersLines source fuel (calls + 1)) :
    (session.next? source fuel).2.AnswersLines source fuel calls :=
  fun call before => lines (call + 1) (Nat.succ_lt_succ before)

/-- Calls that answer lines leave a session whose last line was settled by the last line pulled. -/
theorem Stage.after (stage : Stage source options answered session)
    (lines : session.AnswersLines source fuel calls) :
    ∃ texts, texts.length = calls ∧
      Stage source options (answered ++ texts) (session.after source fuel calls) ∧
      (0 < calls → Settles source options.tail (answered.length + calls)
        (session.after source fuel calls).pulled) := by
  induction calls generalizing session answered with
  | zero => exact ⟨[], rfl, by simpa [Session.after] using stage, fun positive => by omega⟩
  | succ calls ih =>
    obtain ⟨text, next, first⟩ := lines.zero
    obtain ⟨later, settles⟩ : Prompt source options answered (.line text) next := stage.next? first
    have rest := lines.tail
    rw [first] at rest
    obtain ⟨texts, length, stage, settled⟩ := ih later rest
    have behind : session.after source fuel (calls + 1) = next.after source fuel calls := by
      rw [Session.after, first]
    refine ⟨text :: texts, by simp [length], by simpa [behind] using stage, fun _ => ?_⟩
    rw [behind]
    cases calls with
    | zero => exact settles
    | succ calls =>
      have last := settled (Nat.succ_pos calls)
      rwa [List.length_append, List.length_singleton, Nat.add_assoc, Nat.add_comm 1] at last

end Session

/-! Over given lines every call answers, so that the number of lines pulled is known for each. -/

section Replies

variable {lines : List String}

theorem answersLines_replies (options : Options) (lines : List String) :
    ({ options } : Session).AnswersLines (.ofArray lines.toArray) (Session.enough lines.toArray)
      (processLines options lines).lines.length := by
  intro call before
  refine ⟨(processLines options lines).lines[call], ?_⟩
  have answered := answer?_replies options lines call
  simpa [replies, Outcome.answer, List.getElem?_eq_getElem before] using answered

theorem settles_replies (before : call < (processLines options lines).lines.length) :
    Settles (.ofArray lines.toArray) options.tail (call + 1) (replies options lines call).pulled := by
  have answers : ({ options } : Session).AnswersLines (.ofArray lines.toArray)
      (Session.enough lines.toArray) (call + 1) :=
    fun other within => answersLines_replies options lines other (by omega)
  obtain ⟨_, _, _, settles⟩ := (Session.stage_start _ options).after answers
  simpa [replies, Session.reply, Session.after_succ] using settles (Nat.succ_pos call)

/-- The number of lines pulled in the end: up to the one that the fault names, or all. -/
def Outcome.lastPulled (outcome : Outcome) (total : Nat) : Nat :=
  match outcome.fault? with
  | some fault => fault.line
  | none => total

theorem Source.ends_ofArray (lines : List String) :
    (Source.ofArray lines.toArray).Ends lines.length := by
  refine ⟨by simp [ofArray], fun i below => ?_⟩
  simp [ofArray, below]

/-- The call behind the answered lines answers the fault or the end, and no later call pulls
more. -/
theorem pulled_replies_behind (behind : (processLines options lines).lines.length ≤ call) :
    (replies options lines call).pulled =
      (processLines options lines).lastPulled lines.length := by
  obtain ⟨later, rfl⟩ := Nat.exists_eq_add_of_le behind
  let source := Source.ofArray lines.toArray
  let fuel := lines.toArray.size + 1
  let outcome := processLines options lines
  let session := ({ options } : Session).after source (fuel + 1) outcome.lines.length
  let next := (session.next? source (fuel + 1)).2
  obtain ⟨texts, stage⟩ : ∃ texts, Session.Stage source options texts session := by
    obtain ⟨texts, _, stage, _⟩ :=
      (Session.stage_start source options).after (answersLines_replies options lines)
    exact ⟨_, stage⟩
  have given :
      session.next? source (fuel + 1) = (some (outcome.answer outcome.lines.length), next) :=
    Prod.ext (answer?_replies options lines outcome.lines.length) rfl
  have last : ∀ text, outcome.answer outcome.lines.length ≠ .line text := by
    intro text
    cases failed : outcome.fault? <;> simp [Outcome.answer, failed]
  have pulled : (replies options lines (outcome.lines.length + later)).pulled = next.pulled := by
    rw [replies, Session.reply_add]
    exact Session.pulled_reply_of_stopped given (Session.stopped_of_next? given last) later
  have prompt := stage.next? given
  rw [pulled]
  unfold Outcome.lastPulled
  cases failed : outcome.fault? with
  | some fault =>
    have answer : outcome.answer outcome.lines.length = .fault fault :=
      Outcome.answer_eq_fault_iff.mpr ⟨rfl, failed⟩
    rw [answer] at prompt
    exact prompt.1
  | none =>
    have answer : outcome.answer outcome.lines.length = .ended := by
      rw [Outcome.answer_of_le (Nat.le_refl _), failed]
    rw [answer] at prompt
    exact Source.Ends.unique prompt (Source.ends_ofArray lines)

/-- Two runs over the same lines, with tails that settle lines alike, pull alike as long as both
answer lines. -/
theorem pulled_replies_congr_of_lt {first second : Options}
    (alike : ∀ {count n : Nat}, Settles (.ofArray lines.toArray) first.tail count n →
      Settles (.ofArray lines.toArray) second.tail count n)
    (before : call < (processLines first lines).lines.length)
    (beforeOther : call < (processLines second lines).lines.length) :
    (replies first lines call).pulled = (replies second lines call).pulled :=
  (alike (settles_replies before)).unique (settles_replies beforeOther)

theorem pulled_replies_congr {first second : Options}
    (alike : ∀ {count n : Nat}, Settles (.ofArray lines.toArray) first.tail count n →
      Settles (.ofArray lines.toArray) second.tail count n)
    (length : (processLines first lines).lines.length = (processLines second lines).lines.length)
    (fault? : (processLines first lines).fault? = (processLines second lines).fault?) (call : Nat) :
    (replies first lines call).pulled = (replies second lines call).pulled := by
  rcases Nat.lt_or_ge call (processLines first lines).lines.length with before | behind
  · exact pulled_replies_congr_of_lt alike before (length ▸ before)
  · rw [pulled_replies_behind behind, pulled_replies_behind (length ▸ behind), Outcome.lastPulled,
      Outcome.lastPulled, fault?]

end Replies

/-- Nothing is pulled before the first call. When a call answers a line, the last line pulled
settles it. When a call answers a fault, the last line pulled is the offending one, or all lines
have been pulled. After a fault or the end every call answers the end, whatever the source. -/
theorem pulled_after (source : Source) (options : Options) (fuel calls : Nat)
    (lines : ({ options } : Session).AnswersLines source fuel calls) :
    let session := ({ options } : Session).after source fuel calls
    ({ options } : Session).pulled = 0 ∧
    (0 < calls → Settles source options.tail calls session.pulled) ∧
    (∀ fault next, session.next? source fuel = (some (.fault fault), next) →
      next.pulled = fault.line ∧ (∃ accepted, source.Fails options accepted fault next.pulled) ∧
        ∀ openedAt, fault.cause = .unterminatedComment openedAt → source.Ends next.pulled) ∧
    (∀ next, session.next? source fuel = (some .ended, next) → source.Ends next.pulled) ∧
    ∀ answer next, session.next? source fuel = (some answer, next) →
      (∀ text, answer ≠ .line text) → ∀ (other : Source) (more call : Nat),
        next.reply other (more + 1) call = ⟨some .ended, next.pulled⟩ := by
  intro session
  obtain ⟨texts, length, stage, settles⟩ := (Session.stage_start source options).after lines
  refine ⟨rfl, by simpa only [List.length_nil, Nat.zero_add] using settles, ?_, ?_, ?_⟩
  · intro fault next given
    obtain ⟨numbered, fails⟩ : Session.Prompt source options ([] ++ texts) (.fault fault) next :=
      stage.next? given
    obtain ⟨accepted, fails⟩ := fails
    exact ⟨numbered, ⟨accepted, fails⟩, fun openedAt unclosed => fails.ends unclosed⟩
  · intro next given
    exact stage.next? given
  · intro answer next given last other more call
    exact Session.reply_of_stopped (Session.stopped_of_next? given last) other more call

/-- A source that would go on after its end: the held line waits for the third line, the last one
for the end. -/
theorem pulled_after_unfused :
    let source : Source := fun i => if i = 3 then none else some (if i = 1 then "" else "a")
    ({} : Session).AnswersLines source 5 3 ∧
    let session := ({} : Session).after source 5 3
    ({} : Session).pulled = 0 ∧
    (0 < 3 → Settles source .trim 3 session.pulled) ∧
    (∀ fault next, session.next? source 5 = (some (.fault fault), next) →
      next.pulled = fault.line ∧ (∃ accepted, source.Fails {} accepted fault next.pulled) ∧
        ∀ openedAt, fault.cause = .unterminatedComment openedAt → source.Ends next.pulled) ∧
    (∀ next, session.next? source 5 = (some .ended, next) → source.Ends next.pulled) ∧
    ∀ answer next, session.next? source 5 = (some answer, next) →
      (∀ text, answer ≠ .line text) → ∀ (other : Source) (more call : Nat),
        next.reply other (more + 1) call = ⟨some .ended, next.pulled⟩ := by
  intro source
  have lines : ({} : Session).AnswersLines source 5 3 := by
    intro call before
    match call, before with
    | 0, _ => exact ⟨"a;", by decide +kernel⟩
    | 1, _ => exact ⟨"", by decide +kernel⟩
    | 2, _ => exact ⟨"a", by decide +kernel⟩
  exact ⟨lines, pulled_after source {} 5 3 lines⟩

end Offside
