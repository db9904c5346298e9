import Offside.Holdback
import Offside.Text.Lines

/-!
# Sessions

A session reads lines from a source one at a time, and only as many as the next answer needs. It
answers lines, then at most one fault, and then the end, for good.
-/

namespace Offside

/-- Where lines come from: the answer to each time a line is asked for, counted from zero; `none`
says that there are no more. -/
def Source : Type := Nat → Option String

def Source.ofArray (lines : Array String) : Source :=
  fun i => lines[i]?

/-- What a session answers. -/
inductive Answer where
  | line (text : String)
  | fault (fault : Fault)
  | ended
deriving DecidableEq, Repr

/-- A run over a source. -/
structure Session where
  options : Options := {}
  tracker : Tracker := {}
  holdback : Holdback := {}
  pulled : Nat := 0
  ended : Bool := false
deriving DecidableEq, Repr

namespace Session

/-- Gives up: nothing that is still held is answered. -/
def abandon (session : Session) : Session :=
  { session with holdback := {}, ended := true }

/-- Asks the source once. Only a fault is answered at once. -/
def pull (source : Source) (session : Session) : Option Answer × Session :=
  match source session.pulled with
  | some line =>
    let session := { session with pulled := session.pulled + 1 }
    match session.tracker.step session.options session.pulled line with
    | (.ok event, tracker) =>
      (none, { session with tracker, holdback := session.holdback.accept event })
    | (.error fault, tracker) => (some (.fault fault), { session with tracker }.abandon)
  | none =>
    let session := { session with ended := true }
    match session.tracker.finish with
    | (.ok openLevels, tracker) =>
      (none, { session with tracker, holdback := session.holdback.finish openLevels })
    | (.error fault, tracker) => (some (.fault fault), { session with tracker }.abandon)

/-- One move of a session: a line that is ready goes out first; with none ready, the source is
asked, unless it has ended. -/
def advance (source : Source) (session : Session) : Option Answer × Session :=
  match session.holdback.next? with
  | some (text, holdback) => (some (.line text), { session with holdback })
  | none => if session.ended then (some .ended, session) else session.pull source

/-- The next answer, if it takes at most `fuel` moves. A source without end may keep a session
busy for ever. -/
def next? (source : Source) (session : Session) : (fuel : Nat) → Option Answer × Session
  | 0 => (none, session)
  | fuel + 1 =>
    match session.advance source with
    | (some answer, session) => (some answer, session)
    | (none, session) => session.next? source fuel

/-- The lines answered by at most `fuel` calls of `next?` that take at most `fuel` moves each, and
the fault that ends them. -/
def collect (source : Source) (session : Session) (fuel : Nat) :
    (calls : Nat) → List String × Option Fault
  | 0 => ([], none)
  | calls + 1 =>
    match session.next? source fuel with
    | (some (.line text), session) =>
      let (lines, fault?) := session.collect source fuel calls
      (text :: lines, fault?)
    | (some (.fault fault), _) => ([], some fault)
    | (some .ended, _) => ([], none)
    | (none, _) => ([], none)

/-- Moves that are enough for any answer over the given lines: each is read once, then the source
is asked for the end, and then the answer is given. -/
def enough (lines : Array String) : Nat :=
  lines.size + 2

end Session

/-- The outcome of a whole run: the lines answered, and the fault that ended it, if any. -/
structure Outcome where
  lines : List String
  fault? : Option Fault
deriving DecidableEq, Repr

/-- Runs over all given lines. -/
def processLines (options : Options) (lines : List String) : Outcome :=
  let lines := lines.toArray
  let fuel := Session.enough lines
  let (answered, fault?) := Session.collect (.ofArray lines) { options } fuel fuel
  { lines := answered, fault? }

def processText (options : Options) (text : String) : Outcome :=
  processLines options (splitLines text)

end Offside
