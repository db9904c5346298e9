/-!
# Faults

A run over a text ends at its first fault: a line number and a `Cause`. The wording of every cause
stands in `Cause.message`, and `Diagnostic` is a fault reduced to family, line and wording.
-/

namespace Offside

/-- The two families of faults. -/
inductive FaultKind where
  /-- A string, comment or bracket is misplaced or left open. -/
  | malformed
  | misindented
deriving DecidableEq, Repr

def FaultKind.tag : FaultKind → String
  | .malformed => "syntax"
  | .misindented => "wrong-indent"

def FaultKind.title : FaultKind → String
  | .malformed => "syntax error"
  | .misindented => "wrong indentation"

/-- Why a text was rejected. -/
inductive Cause where
  | unmatchedClose
  | unterminatedString
  /-- The text ends inside the block comment that was opened on the given line. -/
  | unterminatedComment (openedAt : Nat)
  /-- A comment stands before the code of a line whose indentation counts. -/
  | leadingComment
  /-- Code follows a block comment that was carried over from an earlier line. -/
  | codeAfterCarriedComment
  | indentedBaseline (width : Nat)
  | unmatchedWidth (width : Nat)
deriving DecidableEq, Repr

namespace Cause

def kind : Cause → FaultKind
  | .indentedBaseline _ | .unmatchedWidth _ => .misindented
  | _ => .malformed

def message : Cause → String
  | .unmatchedClose => "closing bracket without a matching opening bracket"
  | .unterminatedString => "unterminated string literal"
  | .unterminatedComment openedAt => s!"unterminated block comment opened at line {openedAt}"
  | .leadingComment => "a comment cannot lead a line whose indentation is significant"
  | .codeAfterCarriedComment =>
    "a multi-line block comment may only be followed by code on its last line inside brackets"
  | .indentedBaseline width => s!"first line must not be indented, found width {width}"
  | .unmatchedWidth width => s!"width {width} does not match any enclosing indentation level"

end Cause

/-- A cause together with the line at which it was noticed; lines count from one. -/
structure Fault where
  line : Nat
  cause : Cause
deriving DecidableEq, Repr

/-- A fault as it is reported: family, line and wording. -/
structure Diagnostic where
  kind : FaultKind
  line : Nat
  message : String
deriving DecidableEq, Repr

def Diagnostic.render (diagnostic : Diagnostic) : String :=
  s!"{diagnostic.kind.title} at line {diagnostic.line}: {diagnostic.message}"

def Fault.diagnostic (fault : Fault) : Diagnostic :=
  { kind := fault.cause.kind, line := fault.line, message := fault.cause.message }

end Offside
