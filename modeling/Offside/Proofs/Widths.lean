import Mathlib.Data.List.Basic
import Offside.Proofs.LevelCalls

/-! The levels told by the widths of the lines alone. A level is open for every width that no later
line has undercut (`Levels.Remember`), a narrower line must land on one of these, and how a line
stands to the one before it is told by their two widths (`Levels.observe_widths`). -/

namespace Offside

/-- The width is among the widths, and none behind it is narrower. -/
def Stands (widths : List Nat) (width : Nat) : Prop :=
  ∃ before behind, widths = before ++ width :: behind ∧ ∀ later ∈ behind, width ≤ later

/-- The width can follow the others: the first width is zero, and one that is narrower than the last
is zero or still stands. -/
def MayFollow (earlier : List Nat) (width : Nat) : Prop :=
  match earlier.getLast? with
  | none => width = 0
  | some last => width < last → width = 0 ∨ Stands earlier width

/-- The width at the place cannot follow those before it. -/
def BreaksAt (widths : List Nat) (i : Nat) : Prop :=
  ∃ width, widths[i]? = some width ∧ ¬MayFollow (widths.take i) width

theorem stands_concat {widths : List Nat} {last width : Nat} :
    Stands (widths ++ [last]) width ↔ width = last ∨ Stands widths width ∧ width ≤ last := by
  constructor
  · rintro ⟨before, behind, split, above⟩
    rcases List.eq_nil_or_concat' behind with rfl | ⟨behind, other, rfl⟩
    · obtain ⟨-, same⟩ := List.append_inj' split rfl
      exact .inl (List.singleton_inj.mp same).symm
    · rw [← List.cons_append, ← List.append_assoc] at split
      obtain ⟨rfl, same⟩ := List.append_inj' split rfl
      obtain rfl := List.singleton_inj.mp same
      exact .inr ⟨⟨before, behind, rfl, fun later member => above later (by simp [member])⟩,
        above last (by simp)⟩
  · rintro (rfl | ⟨⟨before, behind, rfl, above⟩, below⟩)
    · exact ⟨widths, [], rfl, by simp⟩
    · refine ⟨before, behind ++ [last], by simp, ?_⟩
      exact List.forall_mem_append.mpr ⟨above, by simpa using below⟩

theorem mayFollow_nil {width : Nat} : MayFollow [] width ↔ width = 0 := Iff.rfl

theorem mayFollow_concat {widths : List Nat} {last width : Nat} :
    MayFollow (widths ++ [last]) width ↔
      (width < last → width = 0 ∨ Stands (widths ++ [last]) width) := by
  rw [MayFollow, List.getLast?_concat]

namespace Levels

/-- The levels behind lines of the given widths. What a refused line leaves is used on. -/
def behind (widths : List Nat) : Levels :=
  widths.foldl (fun levels width => (levels.observe width).2) {}

/-- The line at the place is refused. -/
def RefusesAt (widths : List Nat) (i : Nat) : Prop :=
  ∃ width cause, widths[i]? = some width ∧
    ((behind (widths.take i)).observe width).1 = .error cause

/-- The open levels are those of the widths that stand. -/
structure Remember (levels : Levels) (widths : List Nat) : Prop where
  stacked : levels.Stacked
  anchored : levels.anchored = true ↔ widths ≠ []
  mem_iff : ∀ width, width ∈ levels.widths ↔ 0 < width ∧ Stands widths width

section Remember

variable {levels after : Levels} {earlier : List Nat} {last width : Nat}

theorem remember_empty : ({} : Levels).Remember [] where
  stacked := stacked_empty
  anchored := by simp
  mem_iff width := by simp [Stands]

/-- The innermost level is that of the last line. -/
theorem Remember.top_eq (remember : levels.Remember (earlier ++ [last])) : levels.top = last := by
  apply Nat.le_antisymm
  · rcases Nat.eq_zero_or_pos levels.top with base | inside
    · omega
    · rcases stands_concat.mp ((remember.mem_iff _).mp (top_mem inside)).2 with same | ⟨-, below⟩
      · omega
      · exact below
  · rcases Nat.eq_zero_or_pos last with base | inside
    · omega
    · have stands : Stands (earlier ++ [last]) last := stands_concat.mpr (.inl rfl)
      exact remember.stacked.le_top ((remember.mem_iff last).mpr ⟨inside, stands⟩)

/-- A line lands where it may. -/
theorem Remember.landed_iff (remember : levels.Remember earlier) :
    (levels.closeWider width).top = width ↔ width = 0 ∨ Stands earlier width := by
  rw [remember.stacked.landed_iff, remember.mem_iff]
  constructor
  · rintro (base | ⟨-, stands⟩)
    · exact .inl base
    · exact .inr stands
  · rintro (base | stands)
    · exact .inl base
    · rcases Nat.eq_zero_or_pos width with base | inside
      · exact .inl base
      · exact .inr ⟨inside, stands⟩

/-- An accepted line leaves the levels that are no wider than it is, and one for itself. -/
theorem Stacked.mem_observed (stacked : levels.Stacked)
    (accepts : Observed levels width shift after) (other : Nat) :
    other ∈ after.widths ↔ 0 < other ∧ (other = width ∨ other ∈ levels.widths ∧ other ≤ width) := by
  have positive := stacked.positive other
  cases accepts with
  | baseline fresh flush =>
    simp only [stacked.fresh fresh, List.not_mem_nil, false_and, or_false, false_iff]
    omega
  | same _ level =>
    constructor
    · intro member
      exact ⟨positive member, .inr ⟨member, level ▸ stacked.le_top member⟩⟩
    · rintro ⟨inside, same | ⟨member, -⟩⟩
      · rw [same, level]
        exact top_mem (by omega)
      · exact member
  | indent _ wider =>
    rw [push, List.mem_cons]
    constructor
    · rintro (same | member)
      · exact ⟨by omega, .inl same⟩
      · have := stacked.le_top member
        exact ⟨positive member, .inr ⟨member, by omega⟩⟩
    · rintro ⟨-, same | ⟨member, -⟩⟩
      · exact .inl same
      · exact .inr member
  | dedent _ narrower landed =>
    rw [stacked.widths_closeWider, List.mem_filter, decide_eq_true_eq]
    constructor
    · rintro ⟨member, below⟩
      exact ⟨positive member, .inr ⟨member, below⟩⟩
    · rintro ⟨inside, rfl | ⟨member, below⟩⟩
      · rcases stacked.landed_iff.mp landed with base | member
        · omega
        · exact ⟨member, Nat.le_refl _⟩
      · exact ⟨member, below⟩

/-- An accepted line is remembered. -/
theorem Remember.observed (remember : levels.Remember earlier)
    (accepts : Observed levels width shift after) : after.Remember (earlier ++ [width]) where
  stacked := remember.stacked.answered (.observed accepts)
  anchored := by simp [accepts.anchored]
  mem_iff other := by
    rw [remember.stacked.mem_observed accepts, stands_concat, remember.mem_iff]
    constructor
    · rintro ⟨inside, same | ⟨⟨-, stands⟩, below⟩⟩
      · exact ⟨inside, .inl same⟩
      · exact ⟨inside, .inr ⟨stands, below⟩⟩
    · rintro ⟨inside, same | ⟨stands, below⟩⟩
      · exact ⟨inside, .inl same⟩
      · exact ⟨inside, .inr ⟨⟨inside, stands⟩, below⟩⟩

/-- An accepted line is one that may follow. -/
theorem Remember.mayFollow (remember : levels.Remember earlier)
    (accepts : Observed levels width shift after) : MayFollow earlier width := by
  rcases List.eq_nil_or_concat' earlier with rfl | ⟨front, last, rfl⟩
  · cases accepts with
    | baseline _ flush => exact flush
    | same anchored | indent anchored | dedent anchored =>
      exact absurd rfl (remember.anchored.mp anchored)
  · rw [mayFollow_concat]
    intro narrower
    have top := remember.top_eq
    cases accepts with
    | baseline fresh => simp [remember.anchored.mpr (by simp)] at fresh
    | same _ level => omega
    | indent _ wider => omega
    | dedent _ _ landed => exact remember.landed_iff.mp landed

/-- A refused line is one that may not follow. -/
theorem Remember.refused (remember : levels.Remember earlier)
    (refuses : Refused levels width cause after) : ¬MayFollow earlier width := by
  rcases List.eq_nil_or_concat' earlier with rfl | ⟨front, last, rfl⟩
  · rw [mayFollow_nil]
    cases refuses with
    | baseline _ indented => omega
    | between anchored => exact absurd rfl (remember.anchored.mp anchored)
  · rw [mayFollow_concat]
    have top := remember.top_eq
    cases refuses with
    | baseline fresh => simp [remember.anchored.mpr (by simp)] at fresh
    | between _ narrower missed =>
      intro follows
      exact missed (remember.landed_iff.mpr (follows (by omega)))

end Remember

section Row

variable {widths : List Nat} {i : Nat}

theorem behind_take_succ (found : widths[i]? = some width) :
    behind (widths.take (i + 1)) = ((behind (widths.take i)).observe width).2 := by
  rw [List.take_add_one, found, behind, List.foldl_append]
  rfl

/-- Behind accepted lines, the levels are those of the widths that stand. -/
theorem remember_take (accepted : ∀ j < i, ¬RefusesAt widths j) :
    (behind (widths.take i)).Remember (widths.take i) := by
  induction i with
  | zero => exact remember_empty
  | succ i ih =>
    have before := ih fun j below => accepted j (by omega)
    cases found : widths[i]? with
    | none =>
      have whole : widths.take (i + 1) = widths.take i := by
        rw [List.take_add_one, found, Option.toList_none, List.append_nil]
      rwa [whole]
    | some width =>
      rw [behind_take_succ found, List.take_add_one, found, Option.toList_some]
      rcases seen : (behind (widths.take i)).observe width with ⟨cause | shift, after⟩
      · exact absurd ⟨width, cause, found, by rw [seen]⟩ (accepted i (by omega))
      · exact before.observed (observe_ok_iff.mp seen)

/-- Behind accepted lines, a line is refused just when it may not follow. -/
theorem refusesAt_iff_breaksAt (accepted : ∀ j < i, ¬RefusesAt widths j) :
    RefusesAt widths i ↔ BreaksAt widths i := by
  have remember := remember_take accepted
  constructor
  · rintro ⟨width, cause, found, failed⟩
    exact ⟨width, found, remember.refused (refused_of_observe (Prod.ext failed rfl))⟩
  · rintro ⟨width, found, breaks⟩
    rcases seen : (behind (widths.take i)).observe width with ⟨cause | shift, after⟩
    · exact ⟨width, cause, found, by rw [seen]⟩
    · exact absurd (remember.mayFollow (observe_ok_iff.mp seen)) breaks

theorem forall_not_refusesAt_iff (n : Nat) :
    (∀ i < n, ¬RefusesAt widths i) ↔ ∀ i < n, ¬BreaksAt widths i := by
  induction n with
  | zero => simp
  | succ n ih =>
    simp only [Nat.forall_lt_succ_right, ← ih]
    exact and_congr_right fun accepted => not_congr (refusesAt_iff_breaksAt accepted)

end Row

/-- How a line stands to the one before it. -/
theorem Remember.shift_eq {levels after : Levels} {earlier : List Nat} {last width : Nat}
    (remember : levels.Remember (earlier ++ [last])) (accepts : Observed levels width shift after) :
    (width = last → shift = .same) ∧ (last < width → shift = .indent) ∧
      (width < last → 0 < levels.widths.countP (width < ·) ∧
        shift = .dedent (levels.widths.countP (width < ·))) := by
  have top := remember.top_eq
  have counted := remember.stacked.countP_add_depth width
  cases accepts with
  | baseline fresh => simp [remember.anchored.mpr (by simp)] at fresh
  | same _ level => exact ⟨fun _ => rfl, by omega, by omega⟩
  | indent _ wider => exact ⟨by omega, fun _ => rfl, by omega⟩
  | dedent _ narrower =>
    refine ⟨by omega, by omega, fun _ => ⟨?_, congrArg _ (by omega)⟩⟩
    refine List.countP_pos_iff.mpr ⟨levels.top, top_mem (by omega), ?_⟩
    simpa using narrower

/-- Lines of the given widths. None of them is refused just when each may follow those before it, and
the first one that is refused is the first one that may not. When none is refused, the open levels
are those of the positive widths that stand at the end, growing from level to level, and the shift of
every line follows from its width, the width before it and the levels that are open there. -/
theorem observe_widths (widths : List Nat) :
    ((∀ i, ¬RefusesAt widths i) ↔ ∀ i, ¬BreaksAt widths i) ∧
    (∀ i, (RefusesAt widths i ∧ ∀ j < i, ¬RefusesAt widths j) ↔
      BreaksAt widths i ∧ ∀ j < i, ¬BreaksAt widths j) ∧
    ((∀ i, ¬RefusesAt widths i) →
      (behind widths).widths.reverse.Pairwise (· < ·) ∧
      (∀ width, width ∈ (behind widths).widths ↔ 0 < width ∧ Stands widths width) ∧
      (∀ width, widths[0]? = some width → (observe width {}).1 = .ok .baseline) ∧
      ∀ i last width, widths[i]? = some last → widths[i + 1]? = some width →
        let levels := behind (widths.take (i + 1))
        let wider := levels.widths.countP (width < ·)
        (width = last → (levels.observe width).1 = .ok .same) ∧
        (last < width → (levels.observe width).1 = .ok .indent) ∧
        (width < last → 0 < wider ∧ (levels.observe width).1 = .ok (.dedent wider))) := by
  refine ⟨?_, ?_, ?_⟩
  · constructor
    · intro accepted i
      exact (forall_not_refusesAt_iff (i + 1)).mp (fun j _ => accepted j) i (Nat.lt_succ_self i)
    · intro follow i
      exact (forall_not_refusesAt_iff (i + 1)).mpr (fun j _ => follow j) i (Nat.lt_succ_self i)
  · intro i
    rw [and_comm, and_comm (a := BreaksAt widths i), ← forall_not_refusesAt_iff]
    exact and_congr_right refusesAt_iff_breaksAt
  · intro accepted
    have remember := remember_take (i := widths.length) fun j _ => accepted j
    rw [List.take_length] at remember
    refine ⟨remember.stacked.increasing, remember.mem_iff, ?_, ?_⟩
    · intro width found
      rcases seen : observe width {} with ⟨cause | shift, after⟩
      · exact absurd ⟨width, cause, found, congrArg Prod.fst seen⟩ (accepted 0)
      · cases observe_ok_iff.mp seen with
        | baseline => rfl
        | same anchored | indent anchored | dedent anchored => simp at anchored
    · intro i last width before found
      have remember := remember_take (i := i + 1) fun j _ => accepted j
      rcases seen : (behind (widths.take (i + 1))).observe width with ⟨cause | shift, after⟩
      · exact absurd ⟨width, cause, found, by rw [seen]⟩ (accepted (i + 1))
      · rw [List.take_add_one, before, Option.toList_some] at remember seen ⊢
        obtain ⟨same, indent, dedent⟩ := remember.shift_eq (observe_ok_iff.mp seen)
        dsimp only
        rw [seen]
        exact ⟨fun level => congrArg _ (same level), fun wider => congrArg _ (indent wider),
          fun narrower => ⟨(dedent narrower).1, congrArg _ (dedent narrower).2⟩⟩

example : (behind [0, 2, 6, 7, 2, 4]).widths = [4, 2] := by decide

end Levels

end Offside
