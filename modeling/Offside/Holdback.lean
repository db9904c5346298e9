import Offside.Tracker

/-!
# Lines that wait for their delimiter

The delimiter behind a line of code is known when the next line of code is. Until then the line is
held, and with it the empty lines that follow it, so that the order of lines is kept.
-/

namespace Offside

def Shift.delimiter : Shift → String
  | baseline => ""
  | same => ";"
  | indent => "\x7b"
  | dedent count => String.ofList (List.replicate count '}') ++ ";"

/-- A line of code whose delimiter is not known yet. -/
structure HeldLine where
  text : String
  blanks : List String := []
deriving DecidableEq, Repr

/-- The lines of the line and behind it, once its delimiter is known. -/
def HeldLine.lines (delimiter : String) (held : HeldLine) : List String :=
  (held.text ++ delimiter) :: held.blanks

/-- The lines that have been read and not been handed out. -/
structure Holdback where
  /-- The last line of code, with the empty lines behind it. -/
  held : Option HeldLine := none
  ready : List String := []
deriving DecidableEq, Repr

namespace Holdback

/-- Hands the held line over, with the given delimiter. -/
def release (delimiter : String) (holdback : Holdback) : Holdback :=
  match holdback.held with
  | some held => { held := none, ready := holdback.ready ++ held.lines delimiter }
  | none => holdback

def hold (text : String) (holdback : Holdback) : Holdback :=
  { holdback with held := some { text } }

def accept (event : Event) (holdback : Holdback) : Holdback :=
  match event with
  | .blank text =>
    match holdback.held with
    | some held => { holdback with held := some { held with blanks := held.blanks ++ [text] } }
    | none => { holdback with ready := holdback.ready ++ [text] }
  | .nested text => (holdback.release "").hold text
  | .content text shift => (holdback.release shift.delimiter).hold text

/-- Ends the text: the last line of code closes the levels that are still open. -/
def finish (openLevels : Nat) (holdback : Holdback) : Holdback :=
  holdback.release (String.ofList (List.replicate openLevels '}'))

def next? (holdback : Holdback) : Option (String × Holdback) :=
  match holdback.ready with
  | [] => none
  | text :: ready => some (text, { holdback with ready })

end Holdback

end Offside
