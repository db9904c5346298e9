import Offside.Proofs.Forfeit

/-! Strict placement of comments and its absence. A run with it and a run without it take the same
steps until a line is rejected for the place of a comment (`Session.foresee_strict`), so that
strictness only rejects lines and never changes what is answered (`strict_only_rejects`). -/

namespace Offside

namespace Tracker

/-- Strict placement changes what becomes of a line only by rejecting it. -/
theorem classify_strict (tail : CommentTail) (line : StrippedLine) (tracker : Tracker) :
    classify { tail, strict := true } line tracker = classify { tail, strict := false } line tracker ∨
      ∃ cause, line.misplacedComment? = some cause ∧
        classify { tail, strict := true } line tracker = (.error ⟨line.number, cause⟩, tracker) := by
  cases empty : line.isEmpty with
  | true => exact .inl (by simp [classify, empty])
  | false =>
    rcases Nat.eq_zero_or_pos line.depthAtStart with outside | inside
    · cases misplaced : line.misplacedComment? with
      | none => exact .inl (by simp [classify, misplaced])
      | some cause => exact .inr ⟨cause, rfl, by simp [classify, empty, outside, misplaced]⟩
    · exact .inl (by simp [classify, empty, inside])

theorem step_strict (tail : CommentTail) (number : Nat) (line : String) (tracker : Tracker) :
    tracker.step { tail, strict := true } number line =
        tracker.step { tail, strict := false } number line ∨
      ∃ fault next, tracker.step { tail, strict := true } number line = (.error fault, next) ∧
        fault.cause.isMisplacement = true := by
  unfold step
  dsimp only
  split
  · rename_i stripped carry read
    rcases classify_strict tail stripped { tracker with carry, lastLine := number } with
      same | ⟨cause, misplaced, rejected⟩
    · exact .inl same
    · exact .inr ⟨_, _, rejected, StrippedLine.isMisplacement_misplacedComment? misplaced⟩
  · exact .inl rfl

end Tracker

namespace Session

variable {options : Options} {tracker : Tracker} {holdback : Holdback} {lines : List String}

/-- Lines that are ready are answered, however the run goes on. -/
theorem ready_prefix_foresee (options : Options) (tracker : Tracker) (holdback : Holdback)
    (lines : List String) : holdback.ready <+: (foresee options tracker holdback lines).lines := by
  induction lines generalizing tracker holdback with
  | nil =>
    unfold foresee
    split
    · simp [Holdback.finish, Holdback.ready_release]
    · exact List.prefix_refl _
  | cons line lines ih =>
    unfold foresee
    split
    · rename_i event next passed
      exact (holdback.ready_prefix_accept event).trans (ih next _)
    · exact List.prefix_refl _

/-- A fault names a line behind those that were read before. -/
theorem lastLine_lt_of_foresee {fault : Fault}
    (failed : (foresee options tracker holdback (line :: lines)).fault? = some fault) :
    tracker.lastLine < fault.line := by
  obtain ⟨accepted, behind, events, next, split, trace, _, fails⟩ := fails_of_foresee failed
  have numbered := trace.lastLine
  have total : (line :: lines).length = accepted.length + behind.length := by simp [split]
  rw [List.length_cons] at total
  cases behind with
  | nil =>
    obtain ⟨same, _⟩ := Tracker.finish_error (Prod.ext fails rfl)
    rw [List.length_nil] at total
    omega
  | cons line rest =>
    obtain ⟨same, _⟩ := Tracker.step_error (Prod.ext fails rfl)
    omega

/-- The strict run goes the way of the other one, unless a comment is misplaced; then it answers a
first part of the same lines, and the other run meets no earlier fault. -/
theorem foresee_strict (tail : CommentTail) (tracker : Tracker) (holdback : Holdback)
    (lines : List String) :
    let strict := foresee { tail, strict := true } tracker holdback lines
    let relaxed := foresee { tail, strict := false } tracker holdback lines
    strict = relaxed ∨ ∃ fault, strict.fault? = some fault ∧ fault.cause.isMisplacement = true ∧
      strict.lines <+: relaxed.lines ∧
      ∀ found, relaxed.fault? = some found → fault.line ≤ found.line := by
  -- Until a line is rejected both runs have the same tracker and the same holdback.
  induction lines generalizing tracker holdback with
  | nil => exact .inl rfl
  | cons line lines ih =>
    intro strict relaxed
    rcases tracker.step_strict tail (tracker.lastLine + 1) line with
      same | ⟨fault, next, rejected, misplaced⟩
    · cases moved : tracker.step { tail, strict := false } (tracker.lastLine + 1) line with
      | mk result next =>
        rw [moved] at same
        cases result with
        | ok event =>
          have both := ih next (holdback.accept event)
          simpa only [strict, relaxed, foresee, same, moved] using both
        | error fault => exact .inl (by simp only [strict, relaxed, foresee, same, moved])
    · have stopped : strict = ⟨holdback.ready, some fault⟩ := by
        simp only [strict, foresee, rejected]
      refine .inr ⟨fault, by rw [stopped], misplaced, ?_, ?_⟩
      · rw [stopped]
        exact ready_prefix_foresee _ tracker holdback (line :: lines)
      · intro found failed
        rw [(Tracker.step_error rejected).1]
        exact lastLine_lt_of_foresee failed

end Session

theorem processLines_strict (tail : CommentTail) (lines : List String) :
    let strict := processLines { tail, strict := true } lines
    let relaxed := processLines { tail, strict := false } lines
    strict = relaxed ∨ ∃ fault, strict.fault? = some fault ∧ fault.cause.isMisplacement = true ∧
      strict.lines <+: relaxed.lines ∧
      ∀ found, relaxed.fault? = some found → fault.line ≤ found.line := by
  simp only [processLines_eq_foresee]
  exact Session.foresee_strict tail {} {} lines

/-- Where no comment is misplaced the outcomes are the same. -/
theorem processLines_strict_of_placed {tail : CommentTail} {lines : List String}
    (placed : ∀ fault, (processLines { tail, strict := true } lines).fault? = some fault →
      fault.cause.isMisplacement = false) :
    processLines { tail, strict := true } lines = processLines { tail, strict := false } lines := by
  rcases processLines_strict tail lines with same | ⟨fault, failed, misplaced, _⟩
  · exact same
  · simp [placed fault failed] at misplaced

/-- Before its fault the strict run answers a first part of the other outcome. -/
theorem processLines_strict_prefix {tail : CommentTail} {lines : List String} {fault : Fault}
    (failed : (processLines { tail, strict := true } lines).fault? = some fault) :
    (processLines { tail, strict := true } lines).lines <+:
        (processLines { tail, strict := false } lines).lines ∧
      ∀ found, (processLines { tail, strict := false } lines).fault? = some found →
        fault.line ≤ found.line := by
  rcases processLines_strict tail lines with same | ⟨other, failedToo, _, front, first⟩
  · rw [same] at failed ⊢
    refine ⟨List.prefix_refl _, fun found foundToo => ?_⟩
    rw [failed, Option.some.injEq] at foundToo
    exact Nat.le_of_eq (congrArg Fault.line foundToo)
  · rw [failed, Option.some.injEq] at failedToo
    exact ⟨front, failedToo ▸ first⟩

/-- Strict placement of comments only rejects lines. A strict run that rejects none for the place of
a comment shows what the other run shows, call by call. A strict run that answers a fault has
answered lines before it, which the other run answers too, and answers the end behind it; the other
run meets no fault in an earlier line. -/
theorem strict_only_rejects (tail : CommentTail) (lines : List String) :
    let strict := replies { tail, strict := true } lines
    let relaxed := replies { tail, strict := false } lines
    (∀ call, (strict call).answer?.isSome ∧ (relaxed call).answer?.isSome) ∧
    ((∀ call fault, (strict call).answer? = some (.fault fault) →
      fault.cause.isMisplacement = false) → strict = relaxed) ∧
    ∀ call fault, (strict call).answer? = some (.fault fault) →
      (∀ earlier < call, (∃ text, (strict earlier).answer? = some (.line text)) ∧
        relaxed earlier = strict earlier) ∧
      (∀ later, call < later → (strict later).answer? = some .ended) ∧
      ∀ other found, (relaxed other).answer? = some (.fault found) → fault.line ≤ found.line := by
  intro strict relaxed
  let stopped := processLines { tail, strict := true } lines
  let whole := processLines { tail, strict := false } lines
  have answers (call : Nat) : (strict call).answer? = some (stopped.answer call) :=
    answer?_replies _ lines call
  have answersWhole (call : Nat) : (relaxed call).answer? = some (whole.answer call) :=
    answer?_replies _ lines call
  refine ⟨fun call => by simp [answers, answersWhole], ?_, ?_⟩
  · intro placed
    have same : stopped = whole := by
      refine processLines_strict_of_placed fun fault failed => placed stopped.lines.length fault ?_
      rw [answers, Outcome.answer_eq_fault_iff.mpr ⟨rfl, failed⟩]
    have length : stopped.lines.length = whole.lines.length := by rw [same]
    have fault? : stopped.fault? = whole.fault? := by rw [same]
    funext call
    refine Reply.ext (by rw [answers, answersWhole, same]) ?_
    exact @pulled_replies_congr lines { tail, strict := true } { tail, strict := false } id length
      fault? call
  · intro call fault given
    rw [answers, Option.some.injEq, Outcome.answer_eq_fault_iff] at given
    obtain ⟨rfl, failed⟩ := given
    obtain ⟨front, first⟩ := processLines_strict_prefix failed
    refine ⟨?_, ?_, ?_⟩
    · intro earlier before
      have beforeWhole := Nat.lt_of_lt_of_le before front.length_le
      have given := Outcome.answer_of_lt before
      refine ⟨⟨_, by rw [answers, given]⟩, Reply.ext ?_ ?_⟩
      · rw [answers, answersWhole, given, Outcome.answer_of_lt beforeWhole, front.getElem before]
      · exact pulled_replies_congr_of_lt id beforeWhole before
    · intro later behind
      rw [answers, Outcome.answer_of_le (Nat.le_of_lt behind), failed]
      simp [Nat.ne_of_gt behind]
    · intro other found failedToo
      rw [answersWhole, Option.some.injEq, Outcome.answer_eq_fault_iff] at failedToo
      exact first found failedToo.2

/-- The rejected line would have opened a level, and the line before it is lost with it. -/
example :
    processLines {} ["", "a", "/**/ b"] = ⟨[""], some ⟨3, .leadingComment⟩⟩ ∧
      processLines { strict := false } ["", "a", "/**/ b"] = ⟨["", "a\x7b", "     b\x7d"], none⟩ := by
  decide +kernel

end Offside
