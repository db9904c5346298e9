import Offside.Fault

/-!
# Explicit brackets

How many brackets written in the code are open. Inside of at least one of them indentation does
not count.
-/

namespace Offside

/-- The explicit brackets open at some point of a text. -/
structure Nesting where
  depth : Nat := 0
deriving DecidableEq, Repr

namespace Nesting

def push (nesting : Nesting) : Nesting :=
  ⟨nesting.depth + 1⟩

/-- The innermost bracket closes; there has to be one. -/
def pop (nesting : Nesting) : Except Cause Nesting :=
  match nesting.depth with
  | 0 => .error .unmatchedClose
  | depth + 1 => .ok ⟨depth⟩

def isTopLevel (nesting : Nesting) : Bool :=
  nesting.depth == 0

theorem pop_push (nesting : Nesting) : nesting.push.pop = .ok nesting := rfl

end Nesting

end Offside
