import Offside.Levels

/-! What one comparison with the levels can do (`Levels.observe_ok_iff`), and what a row of them
does to the levels. -/

namespace Offside.Levels

/-- The comparisons that the levels accept, with the shift and the levels behind it. -/
inductive Observed (levels : Levels) (width : Nat) : Shift → Levels → Prop where
  | baseline (fresh : levels.anchored = false) (flush : width = 0) :
      Observed levels width .baseline { levels with anchored := true }
  | same (anchored : levels.anchored = true) (level : width = levels.top) :
      Observed levels width .same levels
  | indent (anchored : levels.anchored = true) (wider : levels.top < width) :
      Observed levels width .indent (levels.push width)
  | dedent (anchored : levels.anchored = true) (narrower : width < levels.top)
      (landed : (levels.closeWider width).top = width) :
      Observed levels width (.dedent (levels.depth - (levels.closeWider width).depth))
        (levels.closeWider width)

theorem observe_ok_iff {levels next : Levels} :
    levels.observe width = (.ok shift, next) ↔ Observed levels width shift next := by
  constructor
  · intro passed
    unfold observe at passed
    split at passed
    · rename_i fresh
      split at passed
      · rename_i flush
        simp only [Prod.mk.injEq, Except.ok.injEq] at passed
        obtain ⟨rfl, rfl⟩ := passed
        exact .baseline (by simpa using fresh) flush
      · simp at passed
    rename_i anchored
    have anchored : levels.anchored = true := by simpa using anchored
    split at passed
    · rename_i level
      simp only [Prod.mk.injEq, Except.ok.injEq] at passed
      obtain ⟨rfl, rfl⟩ := passed
      exact .same anchored level
    split at passed
    · rename_i wider
      simp only [Prod.mk.injEq, Except.ok.injEq] at passed
      obtain ⟨rfl, rfl⟩ := passed
      exact .indent anchored wider
    dsimp only at passed
    split at passed
    · rename_i landed
      simp only [Prod.mk.injEq, Except.ok.injEq] at passed
      obtain ⟨rfl, rfl⟩ := passed
      exact .dedent anchored (by omega) landed
    · simp at passed
  · intro observed
    cases observed with
    | baseline fresh flush => simp [observe, fresh, flush]
    | same anchored level => simp [observe, anchored, level]
    | indent anchored wider => simp [observe, anchored, wider, Nat.ne_of_gt wider]
    | dedent anchored narrower landed =>
      simp [observe, anchored, landed, Nat.ne_of_lt narrower, Nat.not_lt_of_gt narrower]

/-- After one accepted line there is no baseline any more. -/
theorem Observed.anchored (observed : Observed levels width shift next) : next.anchored = true := by
  cases observed with
  | baseline => rfl
  | same anchored => exact anchored
  | indent anchored => exact anchored
  | dedent anchored => exact anchored

theorem Observed.ne_baseline (observed : Observed levels width shift next)
    (anchored : levels.anchored = true) : shift ≠ .baseline := by
  cases observed with
  | baseline fresh => simp [anchored] at fresh
  | same | indent | dedent => simp

end Offside.Levels
