import Offside.Session

/-!
# Ways through the answers

What is wanted of a session differs: its fault alone, all of its lines or none, or every line as
soon as it is there. Each way asks for one answer after the other and stops at the first fault.
Calls and moves are bounded as in `Session.collect`.
-/

namespace Offside.Session

/-- Passes over the lines, up to the first fault. -/
def firstFault? (source : Source) (session : Session) (fuel : Nat) : (calls : Nat) → Option Fault
  | 0 => none
  | calls + 1 =>
    match session.next? source fuel with
    | (some (.line _), session) => session.firstFault? source fuel calls
    | (some (.fault fault), _) => some fault
    | (some .ended, _) => none
    | (none, _) => none

/-- Gathers the lines; with a fault behind them they are given up. -/
def gather (source : Source) (session : Session) (fuel : Nat) :
    (calls : Nat) → Except Fault (List String)
  | 0 => .ok []
  | calls + 1 =>
    match session.next? source fuel with
    | (some (.line text), session) => do
      let lines ← session.gather source fuel calls
      return text :: lines
    | (some (.fault fault), _) => .error fault
    | (some .ended, _) => .ok []
    | (none, _) => .ok []

/-- Writes each line at once, with a line feed in front of all but the first. What has been written
before a fault stays written. `index` counts the lines written so far. -/
def write (index : Nat) (source : Source) (session : Session) (fuel : Nat) :
    (calls : Nat) → String × Option Fault
  | 0 => ("", none)
  | calls + 1 =>
    match session.next? source fuel with
    | (some (.line text), session) =>
      let separator := if index = 0 then "" else "\n"
      let (rest, fault?) := session.write (index + 1) source fuel calls
      (separator ++ text ++ rest, fault?)
    | (some (.fault fault), _) => ("", some fault)
    | (some .ended, _) => ("", none)
    | (none, _) => ("", none)

/-- Goes one of these ways through a session over the lines of a text, with calls and moves enough
for all of them. -/
def throughText (options : Options) (text : String)
    (way : Source → Session → (fuel calls : Nat) → α) : α :=
  let lines := (splitLines text).toArray
  way (.ofArray lines) { options } (enough lines) (enough lines)

end Offside.Session
