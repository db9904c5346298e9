import Offside.Session
import Offside.Text.Quoted

/-!
# Expectations

For callers that know how a run has to end: either it delivers all lines or it ends in a fault.
The other ending is a `Surprise`.
-/

namespace Offside

/-- A run that did not end as expected. -/
inductive Surprise where
  | faulted (fault : Fault) (input : List String)
  /-- The run should have ended in a fault, and delivered lines instead. -/
  | delivered (lines : List String)
deriving DecidableEq, Repr

def listing (lines : List String) : String :=
  if lines.isEmpty then "[]"
  else joinLines (["["] ++ lines.map (fun line => "    " ++ quoted line ++ ",") ++ ["]"])

def Surprise.message : Surprise → String
  | faulted fault input =>
    "pre-lexing failed: " ++ fault.diagnostic.render ++ "\ninput: " ++ listing input
  | delivered lines => "expected an error, got " ++ listing lines

def expectLines (options : Options) (lines : List String) : Except Surprise (List String) :=
  let outcome := processLines options lines
  match outcome.fault? with
  | none => .ok outcome.lines
  | some fault => .error (.faulted fault lines)

def expectFault (options : Options) (lines : List String) : Except Surprise Fault :=
  let outcome := processLines options lines
  match outcome.fault? with
  | some fault => .ok fault
  | none => .error (.delivered outcome.lines)

end Offside
