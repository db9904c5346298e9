import Offside.Consumers
import Offside.Cli.Run

/-! All ways through the answers of a session see the same lines and the same fault. So what a
request prints and how it ends is known from the outcome of the run alone (`Cli.endingOf_eq`). -/

namespace Offside

/-- Texts with a separator between them are the first one, and the others behind a separator. -/
theorem intercalate_cons (separator first : String) (others : List String) :
    separator.intercalate (first :: others) =
      first ++ String.join (others.map (separator ++ ·)) := by
  induction others generalizing first with
  | nil => simp
  | cons other others ih =>
    rw [String.intercalate_cons_cons, ih, List.map_cons, String.join_cons, String.append_assoc,
      String.append_assoc]

/-- Lines with a line feed in front of each. -/
def fedLines (lines : List String) : String :=
  String.join (lines.map ("\n" ++ ·))

theorem joinLines_cons (line : String) (lines : List String) :
    joinLines (line :: lines) = line ++ fedLines lines :=
  intercalate_cons "\n" line lines

namespace Session

variable (source : Source) (session : Session) (fuel calls : Nat)

/-- Looking for a fault finds the one that ends the run. -/
theorem firstFault?_eq_collect :
    session.firstFault? source fuel calls = (session.collect source fuel calls).2 := by
  induction calls generalizing session with
  | zero => rfl
  | succ calls ih =>
    simp only [firstFault?, collect]
    cases session.next? source fuel with
    | mk answer? next =>
      cases answer? with
      | none => rfl
      | some answer =>
        cases answer with
        | line text => exact ih next
        | fault fault => rfl
        | ended => rfl

/-- The lines are gathered unless a fault ends the run. -/
theorem gather_eq_collect :
    session.gather source fuel calls =
      match (session.collect source fuel calls).2 with
      | none => .ok (session.collect source fuel calls).1
      | some fault => .error fault := by
  induction calls generalizing session with
  | zero => rfl
  | succ calls ih =>
    simp only [gather, collect]
    cases session.next? source fuel with
    | mk answer? next =>
      cases answer? with
      | none => rfl
      | some answer =>
        cases answer with
        | line text =>
          simp only [ih next]
          cases (next.collect source fuel calls).2 <;> rfl
        | fault fault => rfl
        | ended => rfl

/-- One line after the other, the lines are written as they stand joined. -/
theorem write_eq_collect (index : Nat) :
    session.write index source fuel calls =
      (if index = 0 then joinLines (session.collect source fuel calls).1
        else fedLines (session.collect source fuel calls).1,
        (session.collect source fuel calls).2) := by
  have nothing : (if index = 0 then joinLines [] else fedLines []) = "" := by
    split <;> rfl
  induction calls generalizing session index with
  | zero => simp only [write, collect, nothing]
  | succ calls ih =>
    simp only [write, collect]
    cases session.next? source fuel with
    | mk answer? next =>
      cases answer? with
      | none => simp only [nothing]
      | some answer =>
        cases answer with
        | line text =>
          simp only [ih next (index + 1) rfl, Nat.succ_ne_zero, if_false, Prod.mk.injEq, and_true]
          by_cases first : index = 0
          · simp [first, joinLines_cons]
          · simp [first, fedLines, String.append_assoc]
        | fault fault => simp only [nothing]
        | ended => simp only [nothing]

variable (options : Options) (text : String)

theorem throughText_firstFault? :
    throughText options text firstFault? = (processText options text).fault? := by
  simp only [throughText, processText, processLines, firstFault?_eq_collect]

theorem throughText_gather :
    throughText options text gather =
      match (processText options text).fault? with
      | none => .ok (processText options text).lines
      | some fault => .error fault := by
  simp only [throughText, processText, processLines, gather_eq_collect]

theorem throughText_write :
    throughText options text (write 0) =
      (joinLines (processText options text).lines, (processText options text).fault?) := by
  simp only [throughText, processText, processLines, write_eq_collect, if_true]

end Session

namespace Cli

open Settings (OutputFormat)

/-- What has been written when a fault ends the run. -/
def writtenBeforeFault (format : OutputFormat) (outcome : Outcome) : String :=
  match format with
  | .text => joinLines outcome.lines
  | .json | .yaml => ""

/-- The lines in the given format. -/
def rendered (format : OutputFormat) (lines : List String) : String :=
  match format with
  | .text => joinLines lines
  | .json => closed (Report.Json.document lines)
  | .yaml => closed (Report.Yaml.document lines)

/-- What is printed over a run. -/
def printed (request : Request) (format : OutputFormat) (outcome : Outcome) : String :=
  match request.action, outcome.fault? with
  | .check, none => request.path ++ ": ok\n"
  | .check, some _ => ""
  | .process, none => rendered format outcome.lines
  | .process, some _ => writtenBeforeFault format outcome

def codeOf (outcome : Outcome) : UInt32 :=
  if outcome.fault?.isSome then 1 else 0

/-- The one line about the fault, if there is one. -/
def reported (request : Request) (outcome : Outcome) : String :=
  (outcome.fault?.map (faultReport request.path)).getD ""

/-- A request ends as the outcome of the run says, whichever way it goes through the lines. -/
theorem endingOf_eq (request : Request) (settings : Settings) (text : String) :
    endingOf request settings text =
      { code := codeOf (processText settings.options text)
        stdout := printed request settings.format (processText settings.options text)
        stderr := reported request (processText settings.options text) } := by
  unfold endingOf
  rw [Session.throughText_firstFault?, Session.throughText_gather, Session.throughText_write]
  cases processText settings.options text with
  | mk lines fault? =>
    cases request with
    | mk action =>
      cases action <;> cases settings.format <;> cases fault? <;> rfl

end Cli

end Offside
