import Offside.Proofs.NormalForm
import Offside.Proofs.Redaction
import Offside.Proofs.Tails

/-! Runs over lines from which comments have been taken out by hand. No line comes to be led by a
comment (`Glyph.Fades.led`), so each line keeps its role (`Tracker.step_redacted`), and the whole
run puts the same delimiters behind its lines (`delimitedBy_redaction`). Together with what is known
of reading stripped lines again, stripping comments is a normal form (`stripped_isNormal`). -/

namespace Offside

section Leading

variable {glyphs others : List Glyph}

/-- A blank in code. -/
def Glyph.isGap (glyph : Glyph) : Bool :=
  glyph.standing == .kept && (glyph.char == ' ' || glyph.char == '\t')

/-- The first character that is no blank in code belongs to a comment. -/
def Glyph.led (glyphs : List Glyph) : Bool :=
  match glyphs.find? fun glyph => !glyph.isGap with
  | some glyph => glyph.standing == .comment || glyph.standing == .cut
  | none => false

theorem Glyph.led_cons (glyph : Glyph) (glyphs : List Glyph) :
    led (glyph :: glyphs) =
      if glyph.isGap then led glyphs else glyph.standing == .comment || glyph.standing == .cut := by
  cases gap : glyph.isGap <;> simp [led, gap]

/-- Taking comments out puts none in front of the code. -/
theorem Glyph.Fades.led (fades : Fades glyphs others) (free : Glyph.led glyphs = false) :
    Glyph.led others = false := by
  induction fades with
  | done => rfl
  | same glyph _ ih =>
    rw [led_cons] at free ⊢
    split
    · rename_i gap
      exact ih (by simpa [gap] using free)
    · rename_i solid
      simpa [solid] using free
  | blanked comment _ ih => simp [led_cons, isGap, comment] at free
  | cut gone _ ih => simp [led_cons, isGap, gone] at free

theorem Glyph.led_gaps {run : List Char} (gaps : ∀ c ∈ run, IsGap c) (glyphs : List Glyph) :
    led (run.map (⟨·, .kept⟩) ++ glyphs) = led glyphs := by
  induction run with
  | nil => rfl
  | cons c run ih =>
    obtain ⟨here, behind⟩ := List.forall_mem_cons.mp gaps
    rw [List.map_cons, List.cons_append, led_cons, ih behind]
    rcases here with rfl | rfl <;> rfl

theorem Segment.ledByComment_cons (segment : Segment) (segments : List Segment) :
    ledByComment (segment :: segments) =
      if segment.isCode || segment.opensComment then segment.opensComment
      else ledByComment segments := by
  cases counts : segment.isCode || segment.opensComment <;>
    simp [ledByComment, counts]

/-- A segment is solid if it is code or opens a comment, and does not start with a blank. -/
def Segment.IsSolid (segment : Segment) : Prop :=
  (segment.isCode || segment.opensComment) = true ∧ ∃ c run, segment.source = c :: run ∧ ¬IsGap c

theorem Segment.IsSolid.led {segment : Segment} (solid : segment.IsSolid)
    (segments : List Segment) :
    Glyph.led ((segment :: segments).flatMap Segment.glyphs) = segment.opensComment := by
  obtain ⟨counts, c, run, source, noGap⟩ := solid
  have noGap : (c == ' ' || c == '\t') = false := by
    simpa [IsGap] using noGap
  rw [List.flatMap_cons, Segment.glyphs, source, List.map_cons, List.cons_append, Glyph.led_cons]
  cases segment <;>
    simp_all [Glyph.isGap, Segment.standing, Segment.isCode, Segment.opensComment]

/-- A line of code starts with blanks or with a solid segment. -/
theorem Marking.isSolid_read {lexeme : Lexeme} (number : Nat) (proper : lexeme.IsProper)
    (noSpace : ∀ run, lexeme ≠ .space run) (lexemes : List Lexeme) :
    ∃ segment segments, (read number .code (lexeme :: lexemes)).segments = segment :: segments ∧
      segment.IsSolid := by
  have solid (segment : Segment) (c : Char) (run : List Char)
      (counts : (segment.isCode || segment.opensComment) = true)
      (source : segment.source = c :: run) (noGap : ¬IsGap c) : segment.IsSolid := ⟨counts, c, run, source, noGap⟩
  cases lexeme with
  | space run => exact absurd rfl (noSpace run)
  | text run =>
    obtain ⟨some, each⟩ := proper
    cases run with
    | nil => exact absurd rfl some
    | cons c run => exact ⟨_, _, rfl, solid _ c run rfl rfl (each c List.mem_cons_self).2⟩
  | slash =>
    cases lexemes with
    | nil => exact ⟨_, _, rfl, solid _ '/' [] rfl rfl (by simp [IsGap])⟩
    | cons next lexemes =>
      cases next <;> exact ⟨_, _, rfl, solid _ '/' _ rfl rfl (by simp [IsGap])⟩
  | backslash => cases lexemes <;> exact ⟨_, _, rfl, solid _ '\\' [] rfl rfl (by simp [IsGap])⟩
  | quote => exact ⟨_, _, rfl, solid _ '"' [] rfl rfl (by simp [IsGap])⟩
  | star => exact ⟨_, _, rfl, solid _ '*' [] rfl rfl (by simp [IsGap])⟩
  | openBrace => exact ⟨_, _, rfl, solid _ '{' [] rfl rfl (by simp [IsGap])⟩
  | closeBrace => exact ⟨_, _, rfl, solid _ '}' [] rfl rfl (by simp [IsGap])⟩

/-- Whether a line that starts in code is led by a comment can be told from its characters. -/
theorem Marking.ledByComment_eq {lexemes : List Lexeme} (number : Nat)
    (proper : ∀ lexeme ∈ lexemes, lexeme.IsProper) :
    Segment.ledByComment (read number .code lexemes).segments =
      Glyph.led (read number .code lexemes).glyphs := by
  induction lexemes with
  | nil => rfl
  | cons lexeme lexemes ih =>
    obtain ⟨here, others⟩ := List.forall_mem_cons.mp proper
    by_cases space : ∃ run, lexeme = .space run
    · obtain ⟨run, rfl⟩ := space
      have blanks : read number .code (.space run :: lexemes) =
          (read number .code lexemes).cons (.space run) := rfl
      have skipped : Segment.ledByComment ((read number .code lexemes).cons (.space run)).segments =
          Segment.ledByComment (read number .code lexemes).segments :=
        Segment.ledByComment_cons (.space run) _
      rw [blanks, skipped, ih others, glyphs_cons]
      exact (Glyph.led_gaps here.2 _).symm
    · obtain ⟨segment, segments, split, solid⟩ :=
        isSolid_read number here (fun run same => space ⟨run, same⟩) lexemes
      rw [glyphs, split, solid.led, Segment.ledByComment_cons, if_pos solid.1]

end Leading

/-- Between two lines there is code, or a block comment. -/
def Mode.IsBetween (mode : Mode) : Prop :=
  mode = .code ∨ mode.inBlockComment = true

namespace Mode.IsBetween

variable {mode : Mode}

theorem afterLine (closed : mode ≠ .string) : mode.afterLine.IsBetween := by
  cases mode with
  | string => exact absurd rfl closed
  | code | lineComment => exact .inl rfl
  | blockComment openedAt => exact .inr rfl

theorem redacted (between : mode.IsBetween) (blanked : Bool) :
    (mode.redacted blanked).IsBetween := by
  cases mode with
  | blockComment openedAt =>
    cases blanked with
    | true => exact .inl rfl
    | false => exact .inr rfl
  | code | string | lineComment => exact between

theorem ne_string (between : mode.afterLine.IsBetween) : mode ≠ .string := by
  rintro rfl
  rcases between with same | inside
  · simp [Mode.afterLine] at same
  · simp [Mode.afterLine, Mode.inBlockComment] at inside

end Mode.IsBetween

/-- A line of which more than blanks remains has code. -/
theorem Carry.hasCode_of_readLine {carry : Carry} {line : String} {reading : Reading}
    (read : carry.readLine .pad number line = .ok reading)
    (filled : reading.stripped.isEmpty = false) : reading.marking.hasCode = true := by
  obtain ⟨marking, _, _, _, stripped⟩ := readLine_ok read
  by_contra noCode
  have blank : ∀ c ∈ reading.marking.padded, isBlank c = true := by
    intro c member
    obtain ⟨segment, among, part⟩ := List.mem_flatMap.mp member
    have free : segment.isCode = false := by
      simpa using List.any_eq_false.mp (Bool.eq_false_iff.mpr noCode) segment among
    refine (Marking.isPadding_shown ?_ free).isBlank part
    rintro run rfl
    exact Lexeme.isPadding_of_mem_ofLine (Marking.mem_of_space_mem_read (marking ▸ among))
  have empty : reading.stripped.isEmpty = true := by
    rw [stripped, StrippedLine.isEmpty, String.toList_ofList]
    exact List.all_eq_true.mpr blank
  simp [filled] at empty

theorem StrippedLine.misplacedComment?_eq_none_iff {line : StrippedLine} :
    line.misplacedComment? = none ↔
      line.ledByComment = false ∧ line.codeAfterCarriedComment = false := by
  unfold misplacedComment?
  split
  · simp_all
  · split <;> simp_all

namespace Tracker

/-- The tracker once the block comment around the place is blanked. -/
def redacted (blanked : Bool) (tracker : Tracker) : Tracker :=
  { tracker with carry := { tracker.carry with mode := tracker.carry.mode.redacted blanked } }

variable {strict : Bool} {tracker next final : Tracker} {lines edited : List String}
variable {events : List Event} {reading readingToo : Reading}

/-- No comment comes to be misplaced by taking comments out. -/
theorem misplacedComment?_redacted {carry carryToo : Carry} {line edit : String}
    (between : carry.mode.IsBetween) (read : carry.readLine .pad number line = .ok reading)
    (blanks : carryToo.mode = carry.mode.redacted blanked)
    (readToo : carryToo.readLine .pad number edit = .ok readingToo)
    (redacted : Segment.Redacted blanked reading.marking.segments edit.toList after)
    (filled : reading.stripped.isEmpty = false)
    (placed : reading.stripped.misplacedComment? = none) :
    readingToo.stripped.misplacedComment? = none := by
  have hasCode := Carry.hasCode_of_readLine read filled
  obtain ⟨marking, _, _, _, stripped⟩ := Carry.readLine_ok read
  obtain ⟨markingToo, _, _, _, strippedToo⟩ := Carry.readLine_ok readToo
  rw [StrippedLine.misplacedComment?_eq_none_iff, stripped] at placed
  rw [StrippedLine.misplacedComment?_eq_none_iff, strippedToo]
  obtain ⟨unled, uncarried⟩ := placed
  dsimp only at unled uncarried ⊢
  have code : carry.mode = .code := by
    rw [hasCode, Bool.and_true] at uncarried
    exact between.resolve_right (by simp [uncarried])
  have codeToo : carryToo.mode = .code := by rw [blanks, code]; rfl
  rw [marking, code] at redacted unled
  obtain ⟨fades, _⟩ := Marking.read_redacted redacted
  rw [Marking.ledByComment_eq number (Lexeme.isProper_ofLine _)] at unled
  refine ⟨?_, by simp [codeToo, Mode.inBlockComment]⟩
  rw [markingToo, codeToo, Marking.ledByComment_eq number (Lexeme.isProper_ofLine _)]
  exact fades.led unled

/-- A line with comments taken out of it has the same role. -/
theorem step_redacted (between : tracker.carry.mode.IsBetween)
    (passed : tracker.step { tail := .pad, strict } number line = (.ok event, next))
    (redacted : Segment.Redacted blanked
      (Marking.read number tracker.carry.mode (Lexeme.ofLine line.toList)).segments edit.toList
      after) :
    (tracker.redacted blanked).step { tail := .pad, strict } number edit =
        (.ok event, next.redacted after) ∧
      next.carry.mode.IsBetween := by
  obtain ⟨reading, read, carried, numbered, role⟩ := reading_of_step passed
  obtain ⟨marking, followed, closed, mode, stripped⟩ := Carry.readLine_ok read
  obtain ⟨_, padded, brackets, ending⟩ := Marking.read_redacted redacted
  rw [← marking] at redacted padded brackets ending
  have behind : next.carry.mode.IsBetween := by
    rw [carried, mode]
    exact .afterLine closed
  refine ⟨?_, behind⟩
  have followedToo := (Segment.follow_congr brackets tracker.carry.nesting).trans followed
  rw [← mode] at ending
  have closedToo : (Marking.read number (tracker.carry.mode.redacted blanked)
      (Lexeme.ofLine edit.toList)).mode ≠ .string := by
    refine Mode.IsBetween.ne_string ?_
    rw [ending, ← carried]
    exact behind.redacted after
  obtain ⟨_, readToo⟩ := Carry.readLine_of_follow (tracker.redacted blanked).carry .pad number
    edit followedToo closedToo
  obtain ⟨_, _, _, _, strippedToo⟩ := Carry.readLine_ok readToo
  have levels : next.redacted after =
      { tracker.redacted blanked with
        carry := ⟨reading.after.mode.redacted after, reading.after.nesting⟩
        lastLine := number
        levels := next.levels } := by
    rw [Tracker.redacted, carried, numbered.symm]
  rw [levels, ← ending]
  refine step_of_readLine readToo (role.congr ?_ ?_ rfl fun filled placed strict => ?_)
  · rw [strippedToo, stripped]
    exact congrArg String.ofList padded
  · rw [strippedToo, stripped]
    rfl
  · exact misplacedComment?_redacted between read rfl readToo redacted filled (placed strict)

end Tracker

/-- The markings of lines read one after the other. -/
def Marking.ofLines (number : Nat) (mode : Mode) : List String → List Marking
  | [] => []
  | line :: lines =>
    let marking := read number mode (Lexeme.ofLine line.toList)
    marking :: ofLines (number + 1) marking.mode.afterLine lines

/-- Lines from which comments have been taken out by hand. The flag says whether the block comment
that the first of them starts in is blanked. -/
inductive Redaction : Bool → List Marking → List String → Prop
  | done : Redaction blanked [] []
  | line (here : Segment.Redacted blanked marking.segments edit.toList after)
      (rest : Redaction after markings edited) :
      Redaction blanked (marking :: markings) (edit :: edited)

/-- A run over lines with comments taken out of them goes as the run over the lines. -/
theorem Tracker.Trace.redacted {tracker final : Tracker} {lines edited : List String}
    {events : List Event}
    (trace : Trace { tail := .pad, strict } tracker lines events final)
    (between : tracker.carry.mode.IsBetween)
    (redaction : Redaction blanked
      (Marking.ofLines (tracker.lastLine + 1) tracker.carry.mode lines) edited) :
    ∃ after, Trace { tail := .pad, strict } (tracker.redacted blanked) edited events
      (final.redacted after) := by
  induction trace generalizing blanked edited with
  | done =>
    cases redaction
    exact ⟨blanked, .done⟩
  | @step line event lines events final tracker next passed rest ih =>
    cases redaction with
    | @line _ _ edit after _ edited here behind =>
      obtain ⟨passedToo, betweenToo⟩ := step_redacted between passed here
      obtain ⟨reading, read, carried, numbered, _⟩ := reading_of_step passed
      obtain ⟨marking, _, _, mode, _⟩ := Carry.readLine_ok read
      rw [← marking, ← mode, ← carried, ← numbered] at behind
      obtain ⟨last, restToo⟩ := ih betweenToo behind
      exact ⟨last, .step passedToo restToo⟩

/-- A run over the lines meets no fault and puts the given texts behind what remains of them. -/
def DelimitedBy (options : Options) (lines texts : List String) : Prop :=
  ∃ readings carry, ({} : Carry).readLines options.tail 1 lines = .ok (readings, carry) ∧
    texts.length = lines.length ∧
    processLines options lines =
      ⟨List.zipWith (· ++ ·) (readings.map (·.stripped.text)) texts, none⟩

section Run

variable {options : Options} {final : Tracker} {lines : List String} {events : List Event}

theorem delimitedBy_of_trace (trace : Tracker.Trace options {} lines events final)
    (closed : final.carry.mode.inBlockComment = false) :
    DelimitedBy options lines (delimiters (closers final.levels.depth) events) := by
  obtain ⟨readings, read, texts⟩ := trace.texts
  refine ⟨readings, final.carry, read, ?_, ?_⟩
  · rw [length_delimiters, trace.length_events]
  · rw [processLines_of_trace trace closed, delivered_eq_zipWith, texts]

/-- Taking comments out of the lines by hand does not change what is put behind them. -/
theorem delimitedBy_redaction (trace : Tracker.Trace options {} lines events final)
    (closed : final.carry.mode.inBlockComment = false) {edited : List String}
    (redaction : Redaction false (Marking.ofLines 1 .code lines) edited) :
    DelimitedBy options edited (delimiters (closers final.levels.depth) events) := by
  obtain ⟨tail, strict⟩ := options
  obtain ⟨padded, tracePad, roles⟩ := trace.tail .pad
  obtain ⟨after, traceEdited⟩ := tracePad.redacted (.inl rfl) redaction
  obtain ⟨others, traceTail, rolesTail⟩ := traceEdited.tail tail
  have closedToo : (final.redacted after).carry.mode.inBlockComment = false := by
    cases mode : final.carry.mode with
    | blockComment openedAt => simp [mode, Mode.inBlockComment] at closed
    | code | string | lineComment =>
      simp [Tracker.redacted, mode, Mode.redacted, Mode.inBlockComment]
  have same := delimitedBy_of_trace traceTail closedToo
  rwa [← delimiters_bare, rolesTail, roles, delimiters_bare] at same

end Run

/-- Stripping comments is a normal form. What remains of the lines of a text that is accepted is
read once more as it is, by a reader of either kind: no line changes its text, its width or the
depth of brackets before it, none is led by a comment or has code behind one that was carried into
it, and each of them ends in code. A run over what remains, with the same choices or any others,
puts out the lines that the run over the text puts out. And what is put behind the lines stays when
comments are taken out by hand, whether line comments are cut off or block comments are blanked. -/
theorem stripped_isNormal (options : Options) (lines : List String)
    (passed : (processLines options lines).fault? = none) :
    ∃ readings carry, ({} : Carry).readLines options.tail 1 lines = .ok (readings, carry) ∧
      (∀ tail, ∃ again,
        ({} : Carry).readLines tail 1 (readings.map (·.stripped.text)) =
          .ok (again, ⟨.code, carry.nesting⟩) ∧
        List.Forall₂ Reading.Rests readings again) ∧
      (∀ other, processLines other (readings.map (·.stripped.text)) = processLines options lines) ∧
      ∃ texts, DelimitedBy options lines texts ∧
        ∀ edited, Redaction false (Marking.ofLines 1 .code lines) edited →
          DelimitedBy options edited texts := by
  obtain ⟨events, final, trace, closed, _⟩ := trace_of_processLines passed
  obtain ⟨readings, read, _⟩ := trace.texts
  refine ⟨readings, final.carry, read, fun tail => ?_, processLines_stripped passed read, ?_⟩
  · exact Carry.readLines_again read (by simp) tail
  · exact ⟨_, delimitedBy_of_trace trace closed, fun edited => delimitedBy_redaction trace closed⟩

theorem stripped_isNormal_comments :
    (processLines {} ["a // \x7b", "  b /* c", " */", "d"]).fault? = none ∧
      ∃ readings carry,
        ({} : Carry).readLines .trim 1 ["a // \x7b", "  b /* c", " */", "d"] =
          .ok (readings, carry) ∧
        (∀ tail, ∃ again,
          ({} : Carry).readLines tail 1 (readings.map (·.stripped.text)) =
            .ok (again, ⟨.code, carry.nesting⟩) ∧
          List.Forall₂ Reading.Rests readings again) ∧
        (∀ other, processLines other (readings.map (·.stripped.text)) =
          ⟨["a \x7b", "  b \x7d;", "", "d"], none⟩) ∧
        ∃ texts, DelimitedBy {} ["a // \x7b", "  b /* c", " */", "d"] texts ∧
          DelimitedBy {} ["a ", "  b     ", "   ", "d"] texts := by
  have output : processLines {} ["a // \x7b", "  b /* c", " */", "d"] =
      ⟨["a \x7b", "  b \x7d;", "", "d"], none⟩ := by
    decide +kernel
  have passed : (processLines {} ["a // \x7b", "  b /* c", " */", "d"]).fault? = none := by
    rw [output]
  have read : Marking.ofLines 1 .code ["a // \x7b", "  b /* c", " */", "d"] =
      [⟨[.code ['a'], .space [' '], .lineComment ['/', '/', ' ', '\x7b']], .lineComment⟩,
        ⟨[.space [' ', ' '], .code ['b'], .space [' '], .opener, .comment [' '], .comment ['c']],
          .blockComment 2⟩,
        ⟨[.comment [' '], .closer], .code⟩,
        ⟨[.code ['d']], .code⟩] := by
    decide +kernel
  have redaction : Redaction false
      (Marking.ofLines 1 .code ["a // \x7b", "  b /* c", " */", "d"])
      ["a ", "  b     ", "   ", "d"] := by
    rw [read]
    refine .line (.inside rfl (.inside rfl (.opened rfl true .done))) ?_
    refine .line (.inside rfl (.inside rfl (.inside rfl
      (.opened rfl true (.inside rfl (.inside rfl .done)))))) ?_
    exact .line (.inside rfl (.inside rfl .done)) (.line (.inside rfl .done) .done)
  obtain ⟨readings, carry, readAll, rereads, reruns, texts, delimited, stays⟩ :=
    stripped_isNormal {} _ passed
  exact ⟨passed, readings, carry, readAll, rereads, fun other => (reruns other).trans output,
    texts, delimited, stays _ redaction⟩

end Offside
