import Mathlib.Data.List.Induction
import Offside.Proofs.Delivery
import Offside.Proofs.Readings
import Offside.Session

/-! When a line is settled, that is, when the text behind it is known: an empty line with no code
before it at once, any other line with the next line of code or with the end of the source.
`Settles` says it of the lines of a source, and `isSettled_takeAll` of the lines that a `Holdback`
has ready. -/

namespace Offside

namespace Source

/-- The given lines are the first of the source. -/
def Begins (source : Source) (lines : List String) : Prop :=
  ∀ i line, lines[i]? = some line → source i = some line

/-- The source has so many lines and then says that there are no more. -/
def Ends (source : Source) (total : Nat) : Prop :=
  source total = none ∧ ∀ i < total, source i ≠ none

/-- What the first `count` lines of the source leave for the line behind them. -/
def carry (source : Source) (tail : CommentTail) : (count : Nat) → Carry
  | 0 => {}
  | count + 1 =>
    match source count with
    | some line => ((source.carry tail count).strip tail (count + 1) line).2
    | none => source.carry tail count

/-- What remains of line `i` of the source. Lines count from zero. -/
def stripped? (source : Source) (tail : CommentTail) (i : Nat) : Option StrippedLine :=
  match source i with
  | some line => ((source.carry tail i).strip tail (i + 1) line).1.toOption
  | none => none

/-- Line `i` is there, can be read and is empty. -/
def blankAt (source : Source) (tail : CommentTail) (i : Nat) : Bool :=
  (source.stripped? tail i).any StrippedLine.isEmpty

/-- Line `i` is there, can be read and is not empty. -/
def filledAt (source : Source) (tail : CommentTail) (i : Nat) : Bool :=
  (source.stripped? tail i).any fun line => !line.isEmpty

end Source

/-- The number of lines that have to be pulled for the first `count` lines to be settled. -/
inductive Settles (source : Source) (tail : CommentTail) (count : Nat) : Nat → Prop where
  /-- With no code among them the lines themselves are enough. -/
  | empty (blank : ∀ i < count, source.blankAt tail i = true) : Settles source tail count count
  /-- Otherwise the first line of code behind them is needed. -/
  | decided {j : Nat} (earlier : ∃ i < count, source.filledAt tail i = true) (behind : count ≤ j)
      (filled : source.filledAt tail j = true)
      (between : ∀ i, count ≤ i → i < j → source.blankAt tail i = true) :
      Settles source tail count (j + 1)
  /-- Where there is no such line, the source has to end. -/
  | ended {total : Nat} (earlier : ∃ i < count, source.filledAt tail i = true)
      (within : count ≤ total) (behind : ∀ i, count ≤ i → i < total → source.blankAt tail i = true)
      (ends : source.Ends total) : Settles source tail count total

/-- Among the first `length` lines, line `count` is the last filled one; or none is filled, and
`count` is the number of them all. -/
def IsSettled (filled : Nat → Bool) (length count : Nat) : Prop :=
  (count < length ∧ filled count = true ∧ ∀ i, count < i → i < length → filled i = false) ∨
    (count = length ∧ ∀ i < length, filled i = false)

variable {source : Source} {tail : CommentTail} {isFilled : Nat → Bool}

theorem Source.Ends.unique (first : source.Ends n) (second : source.Ends m) : n = m := by
  rcases Nat.lt_trichotomy n m with below | same | above
  · exact absurd first.1 (second.2 n below)
  · exact same
  · exact absurd second.1 (first.2 m above)

theorem Source.not_filledAt_of_blankAt (blank : source.blankAt tail i = true) :
    source.filledAt tail i = false := by
  unfold blankAt at blank
  unfold filledAt
  cases found : source.stripped? tail i with
  | none => rfl
  | some line => simpa [found] using blank

theorem Source.isSome_of_blankAt (blank : source.blankAt tail i = true) : source i ≠ none := by
  intro missing
  simp [blankAt, stripped?, missing] at blank

theorem Source.isSome_of_filledAt (filled : source.filledAt tail i = true) : source i ≠ none := by
  intro missing
  simp [filledAt, stripped?, missing] at filled

theorem Source.not_blank_of_filled (blank : ∀ i < count, source.blankAt tail i = true) :
    ¬ ∃ i < count, source.filledAt tail i = true := by
  rintro ⟨i, before, filled⟩
  simp [not_filledAt_of_blankAt (blank i before)] at filled

theorem Settles.le (first : Settles source tail count n) (second : Settles source tail count m) :
    n ≤ m := by
  cases first with
  | empty blank =>
    cases second with
    | empty => exact Nat.le_refl _
    | decided _ behind => omega
    | ended _ within => exact within
  | @decided j earlier behind filled between =>
    cases second with
    | empty blank => exact absurd earlier (Source.not_blank_of_filled blank)
    | @decided k _ behindOther filledOther _ =>
      rcases Nat.lt_or_ge k j with before | after
      · have blank := Source.not_filledAt_of_blankAt (between k behindOther before)
        simp [filledOther] at blank
      · omega
    | ended _ within _ ends =>
      rcases Nat.lt_trichotomy m j with before | same | after
      · exact absurd ends.1 (Source.isSome_of_blankAt (between m within before))
      · exact absurd (same ▸ ends.1) (Source.isSome_of_filledAt filled)
      · omega
  | ended earlier within behind ends =>
    cases second with
    | empty blank => exact absurd earlier (Source.not_blank_of_filled blank)
    | @decided k _ behindOther filledOther _ =>
      rcases Nat.lt_or_ge k n with before | after
      · have blank := Source.not_filledAt_of_blankAt (behind k behindOther before)
        simp [filledOther] at blank
      · omega
    | ended _ _ _ endsOther => exact Nat.le_of_eq (ends.unique endsOther)

/-- The lines of a source fix how many of them have to be pulled. -/
theorem Settles.unique (first : Settles source tail count n) (second : Settles source tail count m) :
    n = m :=
  Nat.le_antisymm (first.le second) (second.le first)

namespace IsSettled

theorem congr {other : Nat → Bool} (settled : IsSettled isFilled length count)
    (same : ∀ i < length, isFilled i = other i) : IsSettled other length count := by
  rcases settled with ⟨within, last, behind⟩ | ⟨all, blank⟩
  · refine .inl ⟨within, by rw [← same count within, last], ?_⟩
    intro i above below
    rw [← same i below, behind i above below]
  · exact .inr ⟨all, fun i below => by rw [← same i below, blank i below]⟩

theorem le {other : Nat} (first : IsSettled isFilled length count)
    (second : IsSettled isFilled length other) : count ≤ other := by
  rcases Nat.lt_or_ge other count with before | behind
  · rcases first with ⟨within, last, _⟩ | ⟨all, blank⟩
    · rcases second with ⟨_, _, behind⟩ | ⟨allOther, _⟩
      · simp [behind count before within] at last
      · omega
    · rcases second with ⟨within, filled, _⟩ | ⟨allOther, _⟩
      · simp [blank other within] at filled
      · omega
  · exact behind

theorem unique {other : Nat} (first : IsSettled isFilled length count)
    (second : IsSettled isFilled length other) : count = other :=
  Nat.le_antisymm (first.le second) (second.le first)

theorem concat_filled (last : isFilled length = true) : IsSettled isFilled (length + 1) length :=
  .inl ⟨Nat.lt_succ_self _, last, fun i above below => by omega⟩

/-- A blank line behind a line of code changes nothing. -/
theorem concat_held (settled : IsSettled isFilled length count) (held : count < length)
    (blank : isFilled length = false) : IsSettled isFilled (length + 1) count := by
  rcases settled with ⟨_, last, behind⟩ | ⟨all, _⟩
  · refine .inl ⟨by omega, last, ?_⟩
    intro i above below
    rcases Nat.lt_succ_iff_lt_or_eq.mp below with before | same
    · exact behind i above before
    · rw [same, blank]
  · omega

theorem concat_blank (settled : IsSettled isFilled length length) (blank : isFilled length = false) :
    IsSettled isFilled (length + 1) (length + 1) := by
  rcases settled with ⟨within, _⟩ | ⟨_, all⟩
  · omega
  · refine .inr ⟨rfl, ?_⟩
    intro i below
    rcases Nat.lt_succ_iff_lt_or_eq.mp below with before | same
    · exact all i before
    · rw [same, blank]

end IsSettled

/-- Whether line `i` is there and is not empty, by its role. -/
def Event.filledAt (events : List Event) (i : Nat) : Bool :=
  events[i]?.any fun event => !event.isBlank

theorem Event.filledAt_concat_of_lt (event : Event) (within : i < events.length) :
    filledAt (events ++ [event]) i = filledAt events i := by
  simp [filledAt, List.getElem?_append_left within]

theorem Event.filledAt_concat_length (events : List Event) (event : Event) :
    filledAt (events ++ [event]) events.length = !event.isBlank := by
  simp [filledAt]

namespace Holdback

/-- All roles are taken in, and nothing is handed out. -/
def takeAll (events : List Event) : Holdback :=
  events.foldl (fun holdback event => holdback.accept event) {}

theorem takeAll_concat (events : List Event) (event : Event) :
    takeAll (events ++ [event]) = (takeAll events).accept event := by
  simp [takeAll]

@[simp] theorem size_takeAll (events : List Event) : (takeAll events).size = events.length := by
  induction events using List.reverseRec with
  | nil => rfl
  | append_singleton events event ih => simp [takeAll_concat, ih]

theorem length_ready_accept_of_filled (event : Event) (filled : event.isBlank = false)
    (holdback : Holdback) : (holdback.accept event).ready.length = holdback.size := by
  cases event with
  | blank => simp [Event.isBlank] at filled
  | nested => simp [accept, hold, ready_release, size]
  | content => simp [accept, hold, ready_release, size]

/-- The lines that are ready are those before the last filled one. -/
theorem isSettled_takeAll (events : List Event) :
    IsSettled (Event.filledAt events) events.length (takeAll events).ready.length := by
  induction events using List.reverseRec with
  | nil => exact .inr ⟨rfl, fun i below => by simp at below⟩
  | append_singleton events event ih =>
    have before := ih.congr fun i below => (Event.filledAt_concat_of_lt event below).symm
    have last := Event.filledAt_concat_length events event
    have size := size_takeAll events
    rw [takeAll_concat, List.length_append, List.length_singleton]
    cases event with
    | blank text =>
      unfold Holdback.size heldLines at size
      cases held : (takeAll events).held with
      | none =>
        simp only [held, List.length_nil, Nat.add_zero] at size
        rw [size] at before
        simpa [accept, held, size] using before.concat_blank last
      | some line =>
        simp only [held, HeldLine.lines, List.length_cons] at size
        simpa [accept, held] using before.concat_held (by omega) last
    | nested text =>
      rw [length_ready_accept_of_filled _ rfl, size]
      exact .concat_filled last
    | content text shift =>
      rw [length_ready_accept_of_filled _ rfl, size]
      exact .concat_filled last

end Holdback

/-- The roles are those of the first lines of the source, as far as blanks and texts go. -/
def Source.Shows (source : Source) (tail : CommentTail) (events : List Event) : Prop :=
  ∀ i event, events[i]? = some event → ∃ stripped, source.stripped? tail i = some stripped ∧
    stripped.isEmpty = event.isBlank ∧ stripped.text = event.text

theorem Source.Shows.filledAt {events : List Event} (shows : source.Shows tail events)
    (within : i < events.length) : source.filledAt tail i = Event.filledAt events i := by
  obtain ⟨stripped, found, same, _⟩ := shows i events[i] (List.getElem?_eq_getElem within)
  simp [Source.filledAt, found, Event.filledAt, within, same]

theorem Source.Shows.blankAt {events : List Event} (shows : source.Shows tail events)
    (within : i < events.length) : source.blankAt tail i = !Event.filledAt events i := by
  obtain ⟨stripped, found, same, _⟩ := shows i events[i] (List.getElem?_eq_getElem within)
  simp [Source.blankAt, found, Event.filledAt, within, same]

theorem Source.Shows.blank {events : List Event} (shows : source.Shows tail events)
    (within : i < events.length) (blank : Event.filledAt events i = false) :
    source.blankAt tail i = true := by
  rw [shows.blankAt within, blank, Bool.not_false]

theorem Source.Shows.filled {events : List Event} (shows : source.Shows tail events)
    (within : i < events.length) (filled : Event.filledAt events i = true) :
    source.filledAt tail i = true := by
  rw [shows.filledAt within, filled]

/-- When the last of the lines is the first to settle line `count`, it is the one that was waited
for. The lines that were settled before it and the lines that are settled with it are told by
`early` and `late`. -/
theorem Settles.of_last {events : List Event} (shows : source.Shows tail events)
    (total : events.length = length + 1)
    (before : IsSettled (Event.filledAt events) length early) (unsettled : early < count)
    (after : IsSettled (Event.filledAt events) (length + 1) late) (settled : count ≤ late) :
    Settles source tail count (length + 1) := by
  rcases after with ⟨within, last, behind⟩ | ⟨all, blank⟩
  -- The newest line is one of code, or else nothing would have been settled by it.
  · have newest : late = length := by
      rcases Nat.lt_succ_iff_lt_or_eq.mp within with older | same
      · rcases before with ⟨_, _, behindBefore⟩ | ⟨_, blank⟩
        · simp [behindBefore late (by omega) older] at last
        · simp [blank late older] at last
      · exact same
    subst newest
    rcases before with ⟨withinBefore, filled, behindBefore⟩ | ⟨allBefore, _⟩
    · refine .decided ⟨early, unsettled, shows.filled (by omega) filled⟩ settled
        (shows.filled (by omega) last) ?_
      intro i reached below
      exact shows.blank (by omega) (behindBefore i (by omega) below)
    · omega
  · rcases before with ⟨withinBefore, filled, _⟩ | ⟨allBefore, _⟩
    · simp [blank early (by omega)] at filled
    · obtain rfl : count = length + 1 := by omega
      exact .empty fun i below => shows.blank (by omega) (blank i below)

/-- A line that all lines of the source leave unsettled is settled by its end. -/
theorem Settles.of_end {events : List Event} (shows : source.Shows tail events)
    (before : IsSettled (Event.filledAt events) events.length early) (unsettled : early < count)
    (within : count ≤ events.length) (ends : source.Ends events.length) :
    Settles source tail count events.length := by
  rcases before with ⟨withinBefore, filled, behind⟩ | ⟨all, _⟩
  · refine .ended ⟨early, unsettled, shows.filled withinBefore filled⟩ within ?_ ends
    intro i reached below
    exact shows.blank below (behind i (by omega) below)
  · omega

/-- What a run without a fault reads, seen from the source. -/
theorem Tracker.Trace.shows_from {options : Options} {tracker final : Tracker}
    {lines : List String} {events : List Event} (trace : Trace options tracker lines events final)
    (carried : source.carry options.tail tracker.lastLine = tracker.carry)
    (begins : ∀ i line, lines[i]? = some line → source (tracker.lastLine + i) = some line) :
    ∀ i event, events[i]? = some event →
      ∃ stripped, source.stripped? options.tail (tracker.lastLine + i) = some stripped ∧
        stripped.isEmpty = event.isBlank ∧ stripped.text = event.text := by
  induction trace with
  | done => simp
  | @step line event lines events final tracker next passed rest ih =>
    obtain ⟨stripped, carry, same, classified⟩ := step_ok passed
    have found : source tracker.lastLine = some line := begins 0 line rfl
    have numbered : next.lastLine = tracker.lastLine + 1 := by
      simpa only [passed] using lastLine_step options (tracker.lastLine + 1) line tracker
    have handed : next.carry = carry := by
      simpa [classified] using
        carry_classify options stripped { tracker with carry, lastLine := tracker.lastLine + 1 }
    have carriedNext : source.carry options.tail next.lastLine = next.carry := by
      simp [numbered, Source.carry, found, carried, same, handed]
    have shift (i : Nat) : next.lastLine + i = tracker.lastLine + (i + 1) := by omega
    intro i shown known
    cases i with
    | zero =>
      obtain rfl : event = shown := by simpa using known
      have here : source.stripped? options.tail tracker.lastLine = some stripped := by
        simp [Source.stripped?, found, carried, same, Except.toOption]
      refine ⟨stripped, here, ?_⟩
      cases classify_ok classified with
      | blank empty => exact ⟨empty, rfl⟩
      | nested filled => exact ⟨filled, rfl⟩
      | content filled => exact ⟨filled, rfl⟩
    | succ i =>
      rw [← shift]
      exact ih carriedNext (fun i line behind => by rw [shift, begins (i + 1) line behind]) i shown known

theorem Tracker.Trace.shows {options : Options} {tracker : Tracker} {lines : List String}
    {events : List Event} (trace : Trace options {} lines events tracker)
    (begins : source.Begins lines) : source.Shows options.tail events := by
  simpa [Source.Shows] using trace.shows_from rfl (by simpa [Source.Begins] using begins)

end Offside
