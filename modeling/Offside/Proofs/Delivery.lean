import Offside.Holdback

/-! What becomes of a list of roles in a `Holdback`: each line keeps its place, and the text behind
a line of code is decided by the next line of code alone (`ready_finish`). -/

namespace Offside

def Event.isBlank : Event → Bool
  | blank _ => true
  | _ => false

/-- What a line puts behind the line of code before it. -/
def Event.delimiter : Event → String
  | content _ shift => shift.delimiter
  | _ => ""

/-- One closing brace for each level. -/
def closers (levels : Nat) : String :=
  String.ofList (List.replicate levels '}')

/-- The text behind a line of code that is followed by the given lines; `closing` stands behind
the last line of code. -/
def delimiterBefore (closing : String) (events : List Event) : String :=
  match events.find? fun event => !event.isBlank with
  | some event => event.delimiter
  | none => closing

/-- The lines with their delimiters. -/
def delivered (closing : String) : List Event → List String
  | [] => []
  | event :: events =>
    (event.text ++ if event.isBlank then "" else delimiterBefore closing events) ::
      delivered closing events

@[simp] theorem length_delivered (closing : String) (events : List Event) :
    (delivered closing events).length = events.length := by
  induction events with
  | nil => rfl
  | cons event events ih => simp [delivered, ih]

@[simp] theorem delimiterBefore_nil (closing : String) : delimiterBefore closing [] = closing := rfl

theorem delimiterBefore_cons (closing : String) (event : Event) (events : List Event) :
    delimiterBefore closing (event :: events) =
      if event.isBlank then delimiterBefore closing events else event.delimiter := by
  cases blank : event.isBlank <;> simp [delimiterBefore, blank]

/-- The texts behind the lines. -/
def delimiters (closing : String) : List Event → List String
  | [] => []
  | event :: events =>
    (if event.isBlank then "" else delimiterBefore closing events) :: delimiters closing events

@[simp] theorem length_delimiters (closing : String) (events : List Event) :
    (delimiters closing events).length = events.length := by
  induction events with
  | nil => rfl
  | cons event events ih => simp [delimiters, ih]

theorem delivered_eq_zipWith (closing : String) (events : List Event) :
    delivered closing events =
      List.zipWith (· ++ ·) (events.map Event.text) (delimiters closing events) := by
  induction events with
  | nil => rfl
  | cons event events ih => simp [delivered, delimiters, ih]

theorem delivered_append (closing : String) (first second : List Event) :
    delivered closing (first ++ second) =
      delivered (delimiterBefore closing second) first ++ delivered closing second := by
  induction first with
  | nil => rfl
  | cons event first ih =>
    have same : delimiterBefore closing (first ++ second) =
        delimiterBefore (delimiterBefore closing second) first := by
      simp only [delimiterBefore, List.find?_append]
      cases first.find? fun event => !event.isBlank <;> rfl
    simp [delivered, same, ih]

namespace Holdback

/-- The held line with the text behind it, and the empty lines that follow it. -/
def heldLines (delimiter : String) (holdback : Holdback) : List String :=
  match holdback.held with
  | some held => held.lines delimiter
  | none => []

/-- The number of lines that have been read and not been handed out. -/
def size (holdback : Holdback) : Nat :=
  holdback.ready.length + (holdback.heldLines "").length

theorem ready_release (delimiter : String) (holdback : Holdback) :
    (holdback.release delimiter).ready = holdback.ready ++ holdback.heldLines delimiter := by
  cases held : holdback.held <;> simp [release, heldLines, held]

@[simp] theorem length_heldLines (delimiter : String) (holdback : Holdback) :
    (holdback.heldLines delimiter).length = (holdback.heldLines "").length := by
  cases held : holdback.held <;> simp [heldLines, held, HeldLine.lines]

theorem length_ready_le (holdback : Holdback) : holdback.ready.length ≤ holdback.size :=
  Nat.le_add_right _ _

theorem length_ready_finish (openLevels : Nat) (holdback : Holdback) :
    (holdback.finish openLevels).ready.length = holdback.size := by
  simp [finish, ready_release, size]

theorem size_hold_release (delimiter text : String) (holdback : Holdback) :
    ((holdback.release delimiter).hold text).size = holdback.size + 1 := by
  have one : (((holdback.release delimiter).hold text).heldLines "").length = 1 := rfl
  have ready : ((holdback.release delimiter).hold text).ready =
      holdback.ready ++ holdback.heldLines delimiter := ready_release delimiter holdback
  simp [size, one, ready]

@[simp] theorem size_accept (event : Event) (holdback : Holdback) :
    (holdback.accept event).size = holdback.size + 1 := by
  cases event with
  | blank text =>
    cases held : holdback.held with
    | none => simp [accept, size, heldLines, held]
    | some line =>
      simp [accept, size, heldLines, HeldLine.lines, held]
      omega
  | nested text => exact size_hold_release "" text holdback
  | content text shift => exact size_hold_release shift.delimiter text holdback

/-- One line more: it is ready if it is empty and nothing is held; otherwise it decides, or waits
behind, the line that is held. -/
theorem accept_settles (closing : String) (event : Event) (events : List Event)
    (holdback : Holdback) :
    (holdback.accept event).ready ++
        (holdback.accept event).heldLines (delimiterBefore closing events) ++
          delivered closing events =
      holdback.ready ++ holdback.heldLines (delimiterBefore closing (event :: events)) ++
        delivered closing (event :: events) := by
  cases event with
  | blank text =>
    cases held : holdback.held <;>
      simp [accept, heldLines, held, HeldLine.lines, delimiterBefore_cons, delivered,
        Event.isBlank, Event.text]
  | nested text =>
    simp [accept, hold, ready_release, heldLines, HeldLine.lines, delimiterBefore_cons, delivered,
      Event.isBlank, Event.text, Event.delimiter]
  | content text shift =>
    simp [accept, hold, ready_release, heldLines, HeldLine.lines, delimiterBefore_cons, delivered,
      Event.isBlank, Event.text, Event.delimiter]

/-- All lines that were taken in are handed out in their order, each with the text that the next
line of code puts behind it. -/
theorem ready_finish (openLevels : Nat) (events : List Event) (holdback : Holdback) :
    ((events.foldl (fun holdback event => holdback.accept event) holdback).finish openLevels).ready =
      holdback.ready ++ holdback.heldLines (delimiterBefore (closers openLevels) events) ++
        delivered (closers openLevels) events := by
  induction events generalizing holdback with
  | nil => simp [finish, ready_release, delivered, closers]
  | cons event events ih =>
    rw [List.foldl_cons, ih]
    exact accept_settles (closers openLevels) event events holdback

end Holdback

end Offside
