import Mathlib.Algebra.GroupWithZero.Nat
import Offside.Proofs.Observation

/-! Levels used in any way: lines compared with them and levels closed in any order, also behind a
line that was refused. Their widths stay in order (`Levels.Stacked`), and every level that was opened
is open, or was closed by a line, by closing all, or by a line that was then refused
(`Levels.opened_eq_open_add_closed`). -/

namespace Offside.Levels

/-- What can be asked of levels. -/
inductive Call where
  /-- Compare the width of a line with them. -/
  | observe (width : Nat)
  /-- Close all of them. -/
  | drain
deriving DecidableEq, Repr

inductive Reply where
  | shift (shift : Shift)
  | refusal (cause : Cause)
  /-- So many levels were open. -/
  | drained (count : Nat)
deriving DecidableEq, Repr

/-- A call with the answer to it, and the levels before and behind it. -/
structure Record where
  before : Levels
  call : Call
  reply : Reply
  after : Levels
deriving DecidableEq, Repr

def answer (levels : Levels) : Call → Reply × Levels
  | .observe width =>
    match levels.observe width with
    | (.ok shift, after) => (.shift shift, after)
    | (.error cause, after) => (.refusal cause, after)
  | .drain => (.drained levels.depth, levels.clear)

/-- All calls, one after the other. What a refused line leaves is used on. -/
def history (levels : Levels) : List Call → List Record
  | [] => []
  | call :: calls =>
    let answer := levels.answer call
    ⟨levels, call, answer.1, answer.2⟩ :: history answer.2 calls

/-- The levels behind all calls. -/
def afterCalls (levels : Levels) (calls : List Call) : Levels :=
  calls.foldl (fun levels call => (levels.answer call).2) levels

/-- The open widths are positive and grow from level to level, and no level is open before the first
line of code. -/
structure Stacked (levels : Levels) : Prop where
  increasing : levels.widths.reverse.Pairwise (· < ·)
  positive : ∀ width ∈ levels.widths, 0 < width
  fresh : levels.anchored = false → levels.widths = []

/-- Closes the innermost level. At the base there is none to close. -/
def pop? (levels : Levels) : Option Levels :=
  match levels.widths with
  | [] => none
  | _ :: outer => some { levels with widths := outer }

/-- Closes and counts one level after the other, for as long as the innermost one is wider. There is
no answer if a level is to be closed where there is none, or if it takes more looks at the innermost
level than allowed. -/
def closeOneByOne (width : Nat) : (looks : Nat) → Levels → Option (Nat × Levels)
  | 0, _ => none
  | looks + 1, levels =>
    if width < levels.top then do
      let outer ← levels.pop?
      let (count, rest) ← closeOneByOne width looks outer
      return (count + 1, rest)
    else some (0, levels)

namespace Record

/-- How many levels the call opened. -/
def opened (record : Record) : Nat :=
  match record.reply with
  | .shift .indent => 1
  | _ => 0

/-- How many levels an accepted line closed. -/
def dedented (record : Record) : Nat :=
  match record.reply with
  | .shift (.dedent count) => count
  | _ => 0

def drained (record : Record) : Nat :=
  match record.reply with
  | .drained count => count
  | _ => 0

/-- How many levels a refused line closed: those that are wider. -/
def forfeited (record : Record) : Nat :=
  match record.call, record.reply with
  | .observe width, .refusal _ => record.before.widths.countP (width < ·)
  | _, _ => 0

/-- What is known of every call: the levels stay in order; closing them one by one down to a width
comes to an end before the base; and a refused line opens no level and leaves exactly those that are
narrower than it is. -/
structure Sound (record : Record) : Prop where
  before : record.before.Stacked
  after : record.after.Stacked
  closes : ∀ width, record.call = .observe width →
    ∃ count outer, closeOneByOne width (record.before.depth + 1) record.before =
        some (count, outer) ∧
      (∀ closed, record.reply = .shift (.dedent closed) → closed = count ∧ record.after = outer) ∧
      ∀ cause, record.reply = .refusal cause →
        count = record.forfeited ∧ record.after = outer ∧
          record.after.widths = record.before.widths.filter (· < width)
  balance : record.after.depth + record.dedented + record.drained + record.forfeited =
    record.before.depth + record.opened

end Record

section Closing

variable {levels : Levels} {width : Nat}

theorem depth_closeWider_le (width : Nat) (levels : Levels) :
    (levels.closeWider width).depth ≤ levels.depth :=
  (List.dropWhile_sublist _).length_le

/-- Levels closed one by one are those that are closed at once. It takes one look more than there
are levels, and none is closed at the base. -/
theorem closeOneByOne_eq (width : Nat) (levels : Levels) :
    closeOneByOne width (levels.depth + 1) levels =
      some (levels.depth - (levels.closeWider width).depth, levels.closeWider width) := by
  obtain ⟨widths, anchored⟩ := levels
  induction widths with
  | nil => rfl
  | cons inner outer ih =>
    have popped : pop? ⟨inner :: outer, anchored⟩ = some ⟨outer, anchored⟩ := rfl
    have fewer := depth_closeWider_le width ⟨outer, anchored⟩
    by_cases wider : width < inner
    · have rest : closeWider width ⟨inner :: outer, anchored⟩ =
          closeWider width ⟨outer, anchored⟩ := by
        simp [closeWider, wider]
      have look : width < top ⟨inner :: outer, anchored⟩ := wider
      have depth : depth ⟨inner :: outer, anchored⟩ = depth ⟨outer, anchored⟩ + 1 := rfl
      rw [rest, depth, closeOneByOne, if_pos look, popped, Option.bind_eq_bind, Option.bind_some,
        ih]
      simp only [Option.bind_eq_bind, Option.bind_some, Option.pure_def, Option.some.injEq,
        Prod.mk.injEq, and_true]
      omega
    · have same : closeWider width ⟨inner :: outer, anchored⟩ = ⟨inner :: outer, anchored⟩ := by
        simp [closeWider, wider]
      have look : ¬width < top ⟨inner :: outer, anchored⟩ := wider
      rw [same, closeOneByOne, if_neg look, Nat.sub_self]

theorem Stacked.decreasing (stacked : levels.Stacked) : levels.widths.Pairwise (· > ·) :=
  List.pairwise_reverse.mp stacked.increasing

/-- Closing the wider levels leaves the others. -/
theorem Stacked.widths_closeWider (stacked : levels.Stacked) (width : Nat) :
    (levels.closeWider width).widths = levels.widths.filter (· ≤ width) := by
  have decreasing := stacked.decreasing
  simp only [closeWider]
  generalize levels.widths = widths at decreasing
  induction widths with
  | nil => rfl
  | cons inner outer ih =>
    obtain ⟨below, rest⟩ := List.pairwise_cons.mp decreasing
    by_cases wider : width < inner
    · rw [List.dropWhile_cons_of_pos (by simpa using wider),
        List.filter_cons_of_neg (by simpa using wider), ih rest]
    · have all : ∀ other ∈ inner :: outer, decide (other ≤ width) = true := by
        intro other member
        rcases List.mem_cons.mp member with rfl | behind
        · simpa using wider
        · have := below other behind
          simp only [decide_eq_true_eq]
          omega
      rw [List.dropWhile_cons_of_neg (by simpa using wider), List.filter_eq_self.mpr all]

theorem Stacked.closeWider (stacked : levels.Stacked) (width : Nat) :
    (levels.closeWider width).Stacked where
  increasing := by
    rw [stacked.widths_closeWider, ← List.filter_reverse]
    exact stacked.increasing.filter _
  positive other member := by
    rw [stacked.widths_closeWider] at member
    exact stacked.positive other (List.mem_filter.mp member).1
  fresh unanchored := by
    rw [stacked.widths_closeWider, stacked.fresh unanchored]
    rfl

/-- The innermost width is the greatest. -/
theorem Stacked.le_top (stacked : levels.Stacked) (member : width ∈ levels.widths) :
    width ≤ levels.top := by
  have decreasing := stacked.decreasing
  unfold top
  cases widths : levels.widths with
  | nil => simp [widths] at member
  | cons inner outer =>
    rw [widths] at member decreasing
    rcases List.mem_cons.mp member with rfl | behind
    · exact Nat.le_refl _
    · exact Nat.le_of_lt ((List.pairwise_cons.mp decreasing).1 width behind)

theorem top_mem (inside : 0 < levels.top) : levels.top ∈ levels.widths := by
  unfold top at inside ⊢
  cases widths : levels.widths with
  | nil => simp [widths] at inside
  | cons inner outer => exact List.mem_cons_self

/-- A line lands on the width of an open level, or outside of all. -/
theorem Stacked.landed_iff (stacked : levels.Stacked) :
    (levels.closeWider width).top = width ↔ width = 0 ∨ width ∈ levels.widths := by
  have kept (other : Nat) : other ∈ (levels.closeWider width).widths ↔
      other ∈ levels.widths ∧ other ≤ width := by
    simp [stacked.widths_closeWider]
  have bound : (levels.closeWider width).top ≤ width := by
    rcases Nat.eq_zero_or_pos (levels.closeWider width).top with base | inside
    · omega
    · exact ((kept _).mp (top_mem inside)).2
  constructor
  · intro landed
    rcases Nat.eq_zero_or_pos width with base | inside
    · exact .inl base
    · have member : (levels.closeWider width).top ∈ (levels.closeWider width).widths :=
        top_mem (by omega)
      exact .inr (landed ▸ ((kept _).mp member).1)
  · rintro (rfl | member)
    · omega
    · have := (stacked.closeWider width).le_top ((kept width).mpr ⟨member, Nat.le_refl _⟩)
      omega

end Closing

/-- The comparisons that the levels refuse, with the levels behind it. -/
inductive Refused (levels : Levels) (width : Nat) : Cause → Levels → Prop where
  | baseline (fresh : levels.anchored = false) (indented : 0 < width) :
      Refused levels width (.indentedBaseline width) levels
  | between (anchored : levels.anchored = true) (narrower : width < levels.top)
      (missed : (levels.closeWider width).top ≠ width) :
      Refused levels width (.unmatchedWidth width) (levels.closeWider width)

theorem refused_of_observe {levels after : Levels}
    (failed : levels.observe width = (.error cause, after)) : Refused levels width cause after := by
  unfold observe at failed
  split at failed
  · rename_i fresh
    split at failed
    · simp at failed
    · rename_i indented
      simp only [Prod.mk.injEq, Except.error.injEq] at failed
      obtain ⟨rfl, rfl⟩ := failed
      exact .baseline (by simpa using fresh) (by omega)
  rename_i anchored
  split at failed
  · simp at failed
  split at failed
  · simp at failed
  dsimp only at failed
  split at failed
  · simp at failed
  · rename_i other notWider missed
    simp only [Prod.mk.injEq, Except.error.injEq] at failed
    obtain ⟨rfl, rfl⟩ := failed
    exact .between (by simpa using anchored) (by omega) missed

/-- What a call can do. -/
inductive Answered (levels : Levels) : Call → Reply → Levels → Prop where
  | observed (accepts : Observed levels width shift after) :
      Answered levels (.observe width) (.shift shift) after
  | refused (refuses : Refused levels width cause after) :
      Answered levels (.observe width) (.refusal cause) after
  | drained : Answered levels .drain (.drained levels.depth) levels.clear

theorem answered_answer (levels : Levels) (call : Call) :
    Answered levels call (levels.answer call).1 (levels.answer call).2 := by
  cases call with
  | drain => exact .drained
  | observe width =>
    rcases same : levels.observe width with ⟨shift | cause, after⟩
    · simpa only [answer, same] using .refused (refused_of_observe same)
    · simpa only [answer, same] using .observed (observe_ok_iff.mp same)

section Step

variable {levels after : Levels} {call : Call} {reply : Reply}

/-- No call puts the widths out of order. -/
theorem Stacked.answered (stacked : levels.Stacked) (answered : Answered levels call reply after) :
    after.Stacked := by
  cases answered with
  | drained => exact ⟨.nil, by simp [clear], fun _ => rfl⟩
  | refused refuses =>
    cases refuses with
    | baseline => exact stacked
    | between => exact stacked.closeWider _
  | @observed width shift _ accepts =>
    cases accepts with
    | baseline fresh => exact ⟨stacked.increasing, stacked.positive, by simp⟩
    | same => exact stacked
    | dedent => exact stacked.closeWider _
    | indent anchored wider =>
      refine ⟨?_, ?_, ?_⟩
      · rw [push, List.reverse_cons, List.pairwise_append]
        refine ⟨stacked.increasing, List.pairwise_singleton _ _, ?_⟩
        intro outer member other same
        have := stacked.le_top (List.mem_reverse.mp member)
        rw [List.mem_singleton.mp same]
        omega
      · intro other member
        rcases List.mem_cons.mp member with rfl | below
        · omega
        · exact stacked.positive other below
      · intro fresh
        simp [push, anchored] at fresh

/-- A refused line leaves the levels that are narrower than it is. -/
theorem Stacked.widths_refused (stacked : levels.Stacked)
    (refuses : Refused levels width cause after) :
    after.widths = levels.widths.filter (· < width) := by
  cases refuses with
  | baseline fresh => simp [stacked.fresh fresh]
  | between anchored narrower missed =>
    rw [stacked.widths_closeWider]
    apply List.filter_congr
    intro other member
    have other_ne : other ≠ width := by
      rintro rfl
      exact missed (stacked.landed_iff.mpr (.inr member))
    simp only [decide_eq_decide]
    omega

/-- Levels are wider than a line, or stay open when the wider ones are closed. -/
theorem Stacked.countP_add_depth (stacked : levels.Stacked) (width : Nat) :
    levels.widths.countP (width < ·) + (levels.closeWider width).depth = levels.depth := by
  rw [depth, depth, stacked.widths_closeWider, ← List.countP_eq_length_filter,
    List.length_eq_countP_add_countP (width < ·)]
  simp

theorem closeWider_of_refused (stacked : levels.Stacked)
    (refuses : Refused levels width cause after) : after = levels.closeWider width := by
  cases refuses with
  | between => rfl
  | baseline fresh =>
    obtain ⟨widths, anchored⟩ := levels
    obtain rfl : widths = [] := stacked.fresh fresh
    rfl

/-- Nothing but the first line of code makes a difference to whether there was one. -/
theorem Answered.anchored_eq (answered : Answered levels call reply after)
    (other : reply ≠ .shift .baseline) : after.anchored = levels.anchored := by
  cases answered with
  | drained => rfl
  | refused refuses => cases refuses <;> rfl
  | observed accepts =>
    cases accepts with
    | baseline => exact absurd rfl other
    | same | indent | dedent => rfl

/-- Every call on levels in order is sound. -/
theorem Stacked.sound (stacked : levels.Stacked) (answered : Answered levels call reply after) :
    Record.Sound ⟨levels, call, reply, after⟩ where
  before := stacked
  after := stacked.answered answered
  closes := by
    rintro width rfl
    refine ⟨_, _, closeOneByOne_eq width levels, ?_, ?_⟩
    · rintro closed rfl
      cases answered with
      | observed accepts =>
        cases accepts with
        | dedent => exact ⟨rfl, rfl⟩
    · rintro cause rfl
      cases answered with
      | refused refuses =>
        have counted := stacked.countP_add_depth width
        refine ⟨?_, closeWider_of_refused stacked refuses, stacked.widths_refused refuses⟩
        simp only [Record.forfeited]
        omega
  balance := by
    cases answered with
    | drained =>
      simp [Record.dedented, Record.drained, Record.forfeited, Record.opened, clear, depth]
    | @refused width cause _ refuses =>
      have counted := stacked.countP_add_depth width
      have same := closeWider_of_refused stacked refuses
      simp only [Record.dedented, Record.drained, Record.forfeited, Record.opened, same]
      omega
    | @observed width shift _ accepts =>
      have fewer := depth_closeWider_le width levels
      cases accepts with
      | baseline | same | indent =>
        simp [Record.dedented, Record.drained, Record.forfeited, Record.opened, push, depth]
      | dedent =>
        simp only [Record.dedented, Record.drained, Record.forfeited, Record.opened]
        omega

end Step

/-- Every call of a history is sound, and the levels behind all of them are in order. -/
theorem Stacked.sound_history {levels : Levels} (stacked : levels.Stacked) (calls : List Call) :
    (∀ record ∈ levels.history calls, record.Sound) ∧ (levels.afterCalls calls).Stacked := by
  induction calls generalizing levels with
  | nil => exact ⟨by simp [history], stacked⟩
  | cons call calls ih =>
    have here := stacked.sound (answered_answer levels call)
    obtain ⟨behind, final⟩ := ih here.after
    exact ⟨List.forall_mem_cons.mpr ⟨here, behind⟩, final⟩

/-- The accounts of all calls add up. -/
theorem Stacked.balance_history {levels : Levels} (stacked : levels.Stacked) (calls : List Call) :
    let records := levels.history calls
    (levels.afterCalls calls).depth + (records.map Record.dedented).sum +
        (records.map Record.drained).sum + (records.map Record.forfeited).sum =
      levels.depth + (records.map Record.opened).sum := by
  induction calls generalizing levels with
  | nil => rfl
  | cons call calls ih =>
    have here := stacked.sound (answered_answer levels call)
    have balance := here.balance
    have behind := ih here.after
    simp only [history, List.map_cons, List.sum_cons, afterCalls, List.foldl_cons] at behind ⊢
    dsimp only at balance
    omega

theorem anchored_afterCalls {levels : Levels} {calls : List Call}
    (other : ∀ record ∈ levels.history calls, record.reply ≠ .shift .baseline) :
    (levels.afterCalls calls).anchored = levels.anchored := by
  induction calls generalizing levels with
  | nil => rfl
  | cons call calls ih =>
    obtain ⟨here, behind⟩ := List.forall_mem_cons.mp other
    exact (ih behind).trans ((answered_answer levels call).anchored_eq here)

theorem stacked_empty : ({} : Levels).Stacked :=
  ⟨.nil, by simp, fun _ => rfl⟩

/-- However levels are used, from the first call on: their widths are positive and grow from level to
level, and there are none before the first line of code is accepted; a call closes levels one by one
and stops at the base; a refused line opens no level and leaves just those that are narrower; and as
many levels were opened as are open, or were closed by a line that was accepted, by closing all, or
by a line that was refused. -/
theorem opened_eq_open_add_closed (calls : List Call) :
    let records := ({} : Levels).history calls
    let levels := ({} : Levels).afterCalls calls
    (∀ record ∈ records, record.Sound) ∧ levels.Stacked ∧
      ((∀ record ∈ records, record.reply ≠ .shift .baseline) → levels.widths = []) ∧
      (records.map Record.opened).sum = levels.depth + (records.map Record.dedented).sum +
        (records.map Record.drained).sum + (records.map Record.forfeited).sum := by
  obtain ⟨sound, stacked⟩ := stacked_empty.sound_history calls
  have balance := stacked_empty.balance_history calls
  refine ⟨sound, stacked, fun other => stacked.fresh (anchored_afterCalls other), ?_⟩
  have base : ({} : Levels).depth = 0 := rfl
  omega

example : (({} : Levels).history
    [.observe 0, .observe 4, .observe 9, .observe 6, .drain, .observe 2]).map Record.forfeited =
      [0, 0, 0, 1, 0, 0] := by decide

end Offside.Levels
