import Offside.Marking

/-! A line read one character at a time. `transcribe` says of each character what it counts as, and
agrees with the marking of the line's pieces (`Marking.agrees_read`). -/

namespace Offside

/-- What a character counts as. -/
inductive Standing where
  | kept
  | opening
  | closing
  /-- A part of a block comment. -/
  | comment
  /-- A part of a line comment. -/
  | cut
deriving DecidableEq, Repr

structure Glyph where
  char : Char
  standing : Standing
deriving DecidableEq, Repr

def Glyph.shown (glyph : Glyph) : List Char :=
  match glyph.standing with
  | .comment => [' ']
  | .cut => []
  | _ => [glyph.char]

/-- Whether a bracket opens, if the character is one. -/
def Glyph.bracket? (glyph : Glyph) : Option Bool :=
  match glyph.standing with
  | .opening => some true
  | .closing => some false
  | _ => none

namespace Segment

def standing : Segment → Standing
  | openBrace => .opening
  | closeBrace => .closing
  | code _ | space _ => .kept
  | opener | comment _ | closer => .comment
  | lineComment _ => .cut

def glyphs (segment : Segment) : List Glyph :=
  segment.source.map fun c => ⟨c, segment.standing⟩

def bracket? : Segment → Option Bool
  | openBrace => some true
  | closeBrace => some false
  | _ => none

end Segment

def Marking.glyphs (marking : Marking) : List Glyph :=
  marking.segments.flatMap Segment.glyphs

/-- What the place in front of a character lies in. -/
inductive Phase where
  | code
  /-- Behind a backslash in code. -/
  | escape
  | string
  /-- Behind a backslash in a string. -/
  | stringEscape
  | comment (openedAt : Nat)
  | cut
deriving DecidableEq, Repr

namespace Phase

/-- What the place lies in, with no regard to a backslash before it. -/
def mode : Phase → Mode
  | code | escape => .code
  | string | stringEscape => .string
  | comment openedAt => .blockComment openedAt
  | cut => .lineComment

def ofMode : Mode → Phase
  | .code => code
  | .string => string
  | .blockComment openedAt => comment openedAt
  | .lineComment => cut

/-- The phase behind a character that does nothing there. -/
def unescaped : Phase → Phase
  | escape => code
  | stringEscape => string
  | phase => phase

/-- What a character counts as that does nothing there. -/
def inertStanding : Phase → Standing
  | comment _ => .comment
  | cut => .cut
  | _ => .kept

end Phase

/-- The characters of a text, and the phase at its end. -/
structure Transcript where
  glyphs : List Glyph
  phase : Phase
deriving DecidableEq, Repr

def Transcript.prepend (glyphs : List Glyph) (transcript : Transcript) : Transcript :=
  { transcript with glyphs := glyphs ++ transcript.glyphs }

/-- Reads the characters of the line with the given number. -/
def transcribe (number : Nat) : Phase → List Char → Transcript
  | phase, [] => ⟨[], phase⟩
  | .code, '/' :: '/' :: rest => ⟨('/' :: '/' :: rest).map (⟨·, .cut⟩), .cut⟩
  | .code, '/' :: '*' :: rest =>
    (transcribe number (.comment number) rest).prepend [⟨'/', .comment⟩, ⟨'*', .comment⟩]
  | .code, '\\' :: rest => (transcribe number .escape rest).prepend [⟨'\\', .kept⟩]
  | .code, '"' :: rest => (transcribe number .string rest).prepend [⟨'"', .kept⟩]
  | .code, '{' :: rest => (transcribe number .code rest).prepend [⟨'{', .opening⟩]
  | .code, '}' :: rest => (transcribe number .code rest).prepend [⟨'}', .closing⟩]
  | .code, c :: rest => (transcribe number .code rest).prepend [⟨c, .kept⟩]
  | .escape, c :: rest => (transcribe number .code rest).prepend [⟨c, .kept⟩]
  | .string, '\\' :: rest => (transcribe number .stringEscape rest).prepend [⟨'\\', .kept⟩]
  | .string, '"' :: rest => (transcribe number .code rest).prepend [⟨'"', .kept⟩]
  | .string, c :: rest => (transcribe number .string rest).prepend [⟨c, .kept⟩]
  | .stringEscape, c :: rest => (transcribe number .string rest).prepend [⟨c, .kept⟩]
  | .comment _, '*' :: '/' :: rest =>
    (transcribe number .code rest).prepend [⟨'*', .comment⟩, ⟨'/', .comment⟩]
  | .comment openedAt, c :: rest =>
    (transcribe number (.comment openedAt) rest).prepend [⟨c, .comment⟩]
  | .cut, rest => ⟨rest.map (⟨·, .cut⟩), .cut⟩

/-- A character that is no piece of its own, but joins a run of blanks or of text. -/
def JoinsRun (c : Char) : Prop :=
  c ∉ ['"', '\\', '/', '*', '{', '}']

theorem not_joinsRun {c : Char} (alone : ¬JoinsRun c) :
    c = '"' ∨ c = '\\' ∨ c = '/' ∨ c = '*' ∨ c = '{' ∨ c = '}' := by
  simpa only [JoinsRun, List.mem_cons, List.not_mem_nil, or_false, Classical.not_not] using alone

namespace Marking

open Lexeme

/-- Reads the pieces of a line from a phase on: behind a backslash, the first piece is plain. -/
def readFrom (number : Nat) : Phase → List Lexeme → Marking
  | .escape, lexeme :: rest => (read number .code rest).cons (.code lexeme.chars)
  | .stringEscape, lexeme :: rest => (read number .string rest).cons (.code lexeme.chars)
  | phase, lexemes => read number phase.mode lexemes

/-- The characters count as in the transcript, and the mode is the one at its end. -/
def Agrees (marking : Marking) (transcript : Transcript) : Prop :=
  marking.glyphs = transcript.glyphs ∧ marking.mode = transcript.phase.mode

variable {number : Nat} {phase : Phase} {c : Char} {rest : List Char} {lexemes : List Lexeme}
variable {marking : Marking} {transcript : Transcript}

@[simp] theorem glyphs_cons (segment : Segment) (marking : Marking) :
    (marking.cons segment).glyphs = segment.glyphs ++ marking.glyphs := rfl

@[simp] theorem mode_cons (segment : Segment) (marking : Marking) :
    (marking.cons segment).mode = marking.mode := rfl

theorem Agrees.cons (agrees : marking.Agrees transcript) (segment : Segment) :
    (marking.cons segment).Agrees (transcript.prepend segment.glyphs) :=
  ⟨by rw [glyphs_cons, agrees.1]; rfl, agrees.2⟩

theorem read_code_backslash (number : Nat) (lexemes : List Lexeme) :
    read number .code (.backslash :: lexemes) =
      (readFrom number .escape lexemes).cons (.code ['\\']) := by
  cases lexemes <;> rfl

theorem read_string_backslash (number : Nat) (lexemes : List Lexeme) :
    read number .string (.backslash :: lexemes) =
      (readFrom number .stringEscape lexemes).cons (.code ['\\']) := by
  cases lexemes <;> rfl

theorem read_string (number : Nat) (noBackslash : lexeme ≠ .backslash) (noQuote : lexeme ≠ .quote) :
    read number .string (lexeme :: lexemes) =
      (read number .string lexemes).cons (.code lexeme.chars) := by
  cases lexeme <;> simp_all [read]

theorem read_comment (number openedAt : Nat) (noStar : lexeme ≠ .star) :
    read number (.blockComment openedAt) (lexeme :: lexemes) =
      (read number (.blockComment openedAt) lexemes).cons (.comment lexeme.chars) := by
  cases lexeme <;> simp_all [read]

/-- A slash opens a comment only in front of a slash or a star. -/
theorem read_slash (number : Nat) (apart : ∀ c ∈ rest.head?, c ≠ '/' ∧ c ≠ '*') :
    read number .code (.slash :: ofLine rest) =
      (read number .code (ofLine rest)).cons (.code ['/']) := by
  cases rest with
  | nil => rfl
  | cons d rest =>
    obtain ⟨noSlash, noStar⟩ := apart d rfl
    simp only [ofLine, List.foldr_cons]
    fun_cases Lexeme.cons d (List.foldr Lexeme.cons [] rest) <;> simp_all [read, codeSegment, chars]

/-- A star closes a comment only in front of a slash. -/
theorem read_star (number openedAt : Nat) (apart : ∀ c ∈ rest.head?, c ≠ '/') :
    read number (.blockComment openedAt) (.star :: ofLine rest) =
      (read number (.blockComment openedAt) (ofLine rest)).cons (.comment ['*']) := by
  cases rest with
  | nil => rfl
  | cons d rest =>
    have noSlash := apart d rfl
    simp only [ofLine, List.foldr_cons]
    fun_cases Lexeme.cons d (List.foldr Lexeme.cons [] rest) <;> simp_all [read, chars]

theorem agrees_cut (number : Nat) (line : List Char) :
    (readFrom number .cut (ofLine line)).Agrees ⟨line.map (⟨·, .cut⟩), .cut⟩ := by
  have same := chars_ofLine line
  cases pieces : ofLine line with
  | nil =>
    rw [pieces] at same
    subst same
    exact ⟨rfl, rfl⟩
  | cons lexeme lexemes =>
    rw [pieces] at same
    subst same
    constructor
    · simp [readFrom, Phase.mode, read, glyphs, Segment.glyphs, Segment.source, Segment.standing]
    · simp [readFrom, Phase.mode, read]

/-- A character of a run counts the same whether or not it stands alone. -/
theorem agrees_run (joins : JoinsRun c) (uncut : phase ≠ .cut)
    (agrees : (readFrom number phase.unescaped lexemes).Agrees transcript) :
    (readFrom number phase (Lexeme.cons c lexemes)).Agrees
      (transcript.prepend [⟨c, phase.inertStanding⟩]) := by
  have peeled : (readFrom number phase (Lexeme.cons c lexemes)).glyphs =
        ⟨c, phase.inertStanding⟩ :: (readFrom number phase.unescaped lexemes).glyphs ∧
      (readFrom number phase (Lexeme.cons c lexemes)).mode =
        (readFrom number phase.unescaped lexemes).mode := by
    simp only [JoinsRun, List.mem_cons, List.not_mem_nil, or_false, not_or] at joins
    fun_cases Lexeme.cons c lexemes with
    | case1 | case2 | case3 | case4 | case5 | case6 => simp_all
    | case7 | case8 | case9 | case10 =>
      cases phase with
      | cut => exact absurd rfl uncut
      | _ =>
        simp [readFrom, read, Phase.unescaped, Phase.inertStanding, Phase.mode, codeSegment, chars,
          Segment.glyphs, Segment.source, Segment.standing]
  rw [agrees.1] at peeled
  exact ⟨peeled.1, peeled.2.trans agrees.2⟩

/-- A character that does nothing where it stands is a part of a run, or a segment by itself. -/
theorem agrees_inert (uncut : phase ≠ .cut)
    (agrees : (readFrom number phase.unescaped (ofLine rest)).Agrees transcript)
    (alone : ¬JoinsRun c → ∃ segment, segment.glyphs = [⟨c, phase.inertStanding⟩] ∧
      readFrom number phase (ofLine (c :: rest)) =
        (readFrom number phase.unescaped (ofLine rest)).cons segment) :
    (readFrom number phase (ofLine (c :: rest))).Agrees
      (transcript.prepend [⟨c, phase.inertStanding⟩]) := by
  by_cases joins : JoinsRun c
  · exact agrees_run joins uncut agrees
  · obtain ⟨segment, own, same⟩ := alone joins
    rw [same, ← own]
    exact agrees.cons segment

theorem head?_ne {α : Type} {a : α} {rest : List α} (other : ∀ tail, rest = a :: tail → False) :
    ∀ b ∈ rest.head?, b ≠ a := by
  rintro b first rfl
  obtain ⟨tail, same⟩ := List.head?_eq_some_iff.mp first
  exact other tail same

/-- In code, a character that is no bracket, opens no string and starts no comment stays. -/
theorem agrees_code_inert (noComment : c = '/' → ∀ d ∈ rest.head?, d ≠ '/' ∧ d ≠ '*')
    (noBackslash : c ≠ '\\') (noQuote : c ≠ '"') (noOpen : c ≠ '{') (noClose : c ≠ '}')
    (agrees : (readFrom number .code (ofLine rest)).Agrees transcript) :
    (readFrom number .code (ofLine (c :: rest))).Agrees (transcript.prepend [⟨c, .kept⟩]) := by
  refine agrees_inert (by simp) agrees fun alone => ⟨.code [c], rfl, ?_⟩
  rcases not_joinsRun alone with rfl | rfl | rfl | rfl | rfl | rfl
  · exact absurd rfl noQuote
  · exact absurd rfl noBackslash
  · exact read_slash number (noComment rfl)
  · rfl
  · exact absurd rfl noOpen
  · exact absurd rfl noClose

/-- In a comment, a character that does not close it is a part of it. -/
theorem agrees_comment_inert (openedAt : Nat) (noClose : c = '*' → ∀ d ∈ rest.head?, d ≠ '/')
    (agrees : (readFrom number (.comment openedAt) (ofLine rest)).Agrees transcript) :
    (readFrom number (.comment openedAt) (ofLine (c :: rest))).Agrees
      (transcript.prepend [⟨c, .comment⟩]) := by
  refine agrees_inert (by simp) agrees fun alone => ⟨.comment [c], rfl, ?_⟩
  by_cases star : c = '*'
  · subst star
    exact read_star number openedAt (noClose rfl)
  · rcases not_joinsRun alone with rfl | rfl | rfl | rfl | rfl | rfl
    case neg.inr.inr.inr.inl => exact absurd rfl star
    all_goals exact read_comment number openedAt (by simp)

theorem agrees_readFrom (number : Nat) (phase : Phase) (line : List Char) :
    (readFrom number phase (ofLine line)).Agrees (transcribe number phase line) := by
  fun_induction transcribe number phase line with
  | case1 phase => cases phase <;> exact ⟨rfl, rfl⟩
  | case2 rest =>
    have pieces : ofLine ('/' :: '/' :: rest) = .slash :: .slash :: ofLine rest := rfl
    rw [pieces]
    refine ⟨?_, rfl⟩
    simp [readFrom, Phase.mode, read, glyphs, Segment.glyphs, Segment.source, Segment.standing]
  | case3 rest ih => exact ih.cons .opener
  | case4 rest ih =>
    have escaped := ih.cons (.code ['\\'])
    rwa [← read_code_backslash] at escaped
  | case5 rest ih => exact ih.cons (.code ['"'])
  | case6 rest ih => exact ih.cons .openBrace
  | case7 rest ih => exact ih.cons .closeBrace
  | case8 c rest noLine noBlock noBackslash noQuote noOpen noClose ih =>
    refine agrees_code_inert ?_ noBackslash noQuote noOpen noClose ih
    intro slash d first
    exact ⟨head?_ne (fun tail => noLine tail slash) d first,
      head?_ne (fun tail => noBlock tail slash) d first⟩
  | case9 c rest ih =>
    refine agrees_inert (by simp) ih fun alone => ⟨.code [c], rfl, ?_⟩
    rcases not_joinsRun alone with rfl | rfl | rfl | rfl | rfl | rfl <;> rfl
  | case10 rest ih =>
    have escaped := ih.cons (.code ['\\'])
    rwa [← read_string_backslash] at escaped
  | case11 rest ih => exact ih.cons (.code ['"'])
  | case12 c rest noBackslash noQuote ih =>
    refine agrees_inert (by simp) ih fun alone => ⟨.code [c], rfl, ?_⟩
    rcases not_joinsRun alone with rfl | rfl | rfl | rfl | rfl | rfl
    · exact absurd rfl noQuote
    · exact absurd rfl noBackslash
    all_goals exact read_string number (by simp) (by simp)
  | case13 c rest ih =>
    refine agrees_inert (by simp) ih fun alone => ⟨.code [c], rfl, ?_⟩
    rcases not_joinsRun alone with rfl | rfl | rfl | rfl | rfl | rfl <;> rfl
  | case14 openedAt rest ih => exact ih.cons .closer
  | case15 openedAt c rest noClose ih =>
    exact agrees_comment_inert openedAt (fun star => head?_ne fun tail => noClose tail star) ih
  | case16 rest => exact agrees_cut number rest

/-- The pieces of a line and its characters tell the same. -/
theorem agrees_read (number : Nat) (mode : Mode) (line : List Char) :
    (read number mode (ofLine line)).Agrees (transcribe number (.ofMode mode) line) := by
  have agrees := agrees_readFrom number (.ofMode mode) line
  cases mode <;> exact agrees

/-- What remains of a line is what remains of its characters. -/
theorem shown_glyphs (segments : List Segment) :
    (segments.flatMap Segment.glyphs).flatMap Glyph.shown = segments.flatMap Segment.shown := by
  have each (segment : Segment) : segment.glyphs.flatMap Glyph.shown = segment.shown := by
    cases segment with
    | lineComment run =>
      simp [Segment.glyphs, Segment.source, Segment.standing, Segment.shown, Glyph.shown]
    | code run | space run | comment run =>
      induction run with
      | nil => rfl
      | cons c run ih =>
        simpa [Segment.glyphs, Segment.source, Segment.standing, Segment.shown, Glyph.shown] using ih
    | _ => rfl
  rw [List.flatMap_assoc]
  simp only [each]

/-- The brackets of a line are those of its characters. -/
theorem brackets_glyphs (segments : List Segment) :
    (segments.flatMap Segment.glyphs).filterMap Glyph.bracket? =
      segments.filterMap Segment.bracket? := by
  induction segments with
  | nil => rfl
  | cons segment segments ih =>
    have each : segment.glyphs.filterMap Glyph.bracket? = segment.bracket?.toList := by
      cases segment <;>
        simp [Segment.glyphs, Segment.source, Segment.standing, Segment.bracket?, Glyph.bracket?]
    cases bracket : segment.bracket? <;> simp [each, bracket, ih]

end Marking

end Offside
