/-! Words over two kinds of brackets. A stack of the brackets that are open decides whether a word
is well nested (`wellNested_of_follow`). -/

namespace Offside

/-- Where a bracket comes from. -/
inductive Origin where
  /-- It stands in the code. -/
  | written
  /-- It was put behind a line for its indentation. -/
  | inserted
deriving DecidableEq, Repr

structure Bracket where
  origin : Origin
  opens : Bool
deriving DecidableEq, Repr

/-- Every bracket is closed by one of its own kind, and what stands between the two is well nested. -/
inductive WellNested : List Bracket → Prop where
  | nil : WellNested []
  | wrap (origin : Origin) (inner : WellNested within) (rest : WellNested behind) :
      WellNested (⟨origin, true⟩ :: within ++ ⟨origin, false⟩ :: behind)

namespace Bracket

/-- The brackets that are open behind a word, the innermost first, if none was closed by one of the
other kind. -/
def follow : List Origin → List Bracket → Option (List Origin)
  | stack, [] => some stack
  | stack, ⟨origin, true⟩ :: rest => follow (origin :: stack) rest
  | [], ⟨_, false⟩ :: _ => none
  | top :: stack, ⟨origin, false⟩ :: rest => if top = origin then follow stack rest else none

theorem follow_append (stack : List Origin) (first second : List Bracket) :
    follow stack (first ++ second) = (follow stack first).bind fun stack => follow stack second := by
  fun_induction follow stack first with
  | case4 stack origin rest ih => simpa [follow] using ih
  | case5 top stack origin rest differ => simp [follow, differ]
  | _ => simp_all [follow]

theorem follow_closing (origin : Origin) (count : Nat) (stack : List Origin) :
    follow (List.replicate count origin ++ stack) (List.replicate count ⟨origin, false⟩) =
      some stack := by
  induction count with
  | zero => rfl
  | succ count ih => simpa [List.replicate_succ, follow] using ih

/-- What is open behind a word is what was opened and not closed. -/
theorem count_follow {stack final : List Origin} {word : List Bracket}
    (followed : follow stack word = some final) (origin : Origin) :
    stack.count origin + word.count ⟨origin, true⟩ =
      word.count ⟨origin, false⟩ + final.count origin := by
  fun_induction follow stack word with
  | case1 stack =>
    cases followed
    simp
  | case2 stack own rest ih =>
    have := ih followed
    by_cases same : own = origin
    · subst same
      simp at this ⊢
      omega
    · simp [same] at this ⊢
      omega
  | case3 => simp at followed
  | case4 stack own rest ih =>
    have := ih followed
    by_cases same : own = origin
    · subst same
      simp at this ⊢
      omega
    · simp [same] at this ⊢
      omega
  | case5 => simp at followed

/-- The word closes the brackets of the stack in their order, and all between them is well nested. -/
def Closes : List Origin → List Bracket → Prop
  | [], word => WellNested word
  | origin :: stack, word =>
    ∃ inner rest, word = inner ++ ⟨origin, false⟩ :: rest ∧ WellNested inner ∧ Closes stack rest

theorem closes_of_follow {stack : List Origin} {word : List Bracket}
    (followed : follow stack word = some []) : Closes stack word := by
  fun_induction follow stack word with
  | case1 stack =>
    obtain rfl : stack = [] := by simpa using followed
    exact .nil
  | case2 stack origin rest ih =>
    obtain ⟨inner, behind, rfl, nested, closes⟩ := ih followed
    cases stack with
    | nil => exact .wrap origin nested closes
    | cons top stack =>
      obtain ⟨next, further, rfl, nestedNext, closes⟩ := closes
      exact ⟨⟨origin, true⟩ :: inner ++ ⟨origin, false⟩ :: next, further, by simp,
        .wrap origin nested nestedNext, closes⟩
  | case3 => simp at followed
  | case4 stack origin rest ih => exact ⟨[], rest, rfl, .nil, ih followed⟩
  | case5 => simp at followed

theorem wellNested_of_follow {word : List Bracket} (followed : follow [] word = some []) :
    WellNested word :=
  closes_of_follow followed

/-- No part at the front of the word closes a bracket that is not open. -/
theorem count_closing_le {front back : List Bracket}
    (followed : follow [] (front ++ back) = some []) (origin : Origin) :
    front.count ⟨origin, false⟩ ≤ front.count ⟨origin, true⟩ := by
  rw [follow_append] at followed
  obtain ⟨stack, reached, _⟩ := Option.bind_eq_some_iff.mp followed
  have := count_follow reached origin
  simp only [List.count_nil, Nat.zero_add] at this
  omega

end Bracket

end Offside
