import Offside.Proofs.Forfeit
import Offside.Proofs.LineShape
import Offside.Proofs.Perusal

/-! Columns. What is in front of a line comment leaves one character in each of its columns, and the
one it had unless it belongs to a comment (`Transcript.Splits.shown`). Whatever a run answers for a
line, the code of the line is in its old columns there (`Carry.columns_are_kept`). -/

namespace Offside

/-- What a character leaves in its column. -/
def Glyph.seen (glyph : Glyph) : Char :=
  if glyph.standing = .comment then ' ' else glyph.char

/-- Characters of a line, and the line comment behind them if there is one. -/
structure Transcript.Splits (transcript : Transcript) (uncut cut : List Glyph) : Prop where
  glyphs : transcript.glyphs = uncut ++ cut
  before : ∀ glyph ∈ uncut, glyph.standing ≠ .cut
  behind : ∀ glyph ∈ cut, glyph.standing = .cut
  marked : cut = [] ∨ ∃ rest, cut.map Glyph.char = '/' :: '/' :: rest

/-- The characters of each line, read from what the lines before it leave open. -/
def glyphRows (number : Nat) (mode : Mode) : List String → List (List Glyph)
  | [] => []
  | line :: lines =>
    let transcript := transcribe number (.ofMode mode) line.toList
    transcript.glyphs :: glyphRows (number + 1) transcript.phase.mode.afterLine lines

/-- The characters of code are in the text where they are in the row. -/
def Keeps (row : List Glyph) (text : String) : Prop :=
  ∀ (column : Nat) (glyph : Glyph), row[column]? = some glyph → glyph.isCode = true →
    text.toList[column]? = some glyph.char

namespace Transcript

variable {transcript : Transcript} {uncut cut : List Glyph}

theorem Splits.prepend {more : List Glyph} (splits : transcript.Splits uncut cut)
    (before : ∀ glyph ∈ more, glyph.standing ≠ .cut) :
    (transcript.prepend more).Splits (more ++ uncut) cut where
  glyphs := by rw [Transcript.prepend, splits.glyphs, List.append_assoc]
  before := List.forall_mem_append.mpr ⟨before, splits.before⟩
  behind := splits.behind
  marked := splits.marked

/-- Two slashes in code are where a line is cut. -/
theorem splits_transcribe {phase : Phase} (number : Nat) (inside : phase ≠ .cut)
    (line : List Char) : ∃ uncut cut, (transcribe number phase line).Splits uncut cut := by
  fun_induction transcribe number phase line with
  | case1 => exact ⟨[], [], rfl, by simp, by simp, .inl rfl⟩
  | case2 rest => exact ⟨[], _, rfl, by simp, by simp, .inr ⟨rest, by simp [Function.comp_def]⟩⟩
  | case16 => exact absurd rfl inside
  | _ =>
    rename_i ih
    obtain ⟨uncut, cut, splits⟩ := ih (by simp)
    exact ⟨_, _, splits.prepend (by simp)⟩

theorem chars_transcribe (number : Nat) (phase : Phase) (line : List Char) :
    (transcribe number phase line).glyphs.map Glyph.char = line := by
  fun_induction transcribe number phase line <;> simp_all [Transcript.prepend, Function.comp_def]

/-- In front of the line comment every character leaves one, and behind it none. -/
theorem Splits.seen {front : List Glyph} (splits : transcript.Splits uncut cut)
    (among : front ⊆ uncut) : front.flatMap Glyph.shown = front.map Glyph.seen := by
  induction front with
  | nil => rfl
  | cons glyph front ih =>
    have before := splits.before glyph (among List.mem_cons_self)
    have own : glyph.shown = [glyph.seen] := by
      unfold Glyph.shown Glyph.seen
      cases standing : glyph.standing with
      | cut => exact absurd standing before
      | _ => rfl
    rw [List.flatMap_cons, own, ih fun other member => among (List.mem_cons_of_mem _ member)]
    rfl

theorem Splits.cut_shown (splits : transcript.Splits uncut cut) :
    cut.flatMap Glyph.shown = [] := by
  apply List.flatMap_eq_nil_iff.mpr
  intro glyph member
  simp [Glyph.shown, splits.behind glyph member]

/-- Dropping a comment at the end leaves a line comment alone. -/
theorem Splits.rdropWhile (splits : transcript.Splits uncut cut) :
    ∃ front back, uncut = front ++ back ∧
      transcript.glyphs.rdropWhile (·.standing == .comment) = front ++ cut ∧
      ∀ glyph ∈ back, glyph.isCode = false := by
  by_cases none : cut = []
  · refine ⟨uncut.rdropWhile (·.standing == .comment), uncut.rtakeWhile (·.standing == .comment),
      List.rdropWhile_append_rtakeWhile.symm, ?_, ?_⟩
    · rw [splits.glyphs, none, List.append_nil, List.append_nil]
    · intro glyph member
      have comment := List.mem_rtakeWhile_imp member
      simp only [beq_iff_eq] at comment
      simp [Glyph.isCode, comment]
  · refine ⟨uncut, [], (List.append_nil _).symm, ?_, by simp⟩
    rw [splits.glyphs, List.rdropWhile_eq_self_iff]
    intro some last
    rw [List.getLast_append_of_ne_nil _ none] at last
    simp [splits.behind _ (List.getLast_mem none)] at last

/-- What remains of a line is what the characters in front of the line comment leave in their
columns, up to a column behind which there is no code. -/
theorem Splits.shown (splits : transcript.Splits uncut cut) (tail : CommentTail) (carried : Bool) :
    ∃ front back, uncut = front ++ back ∧ transcript.shown tail carried = front.map Glyph.seen ∧
      (tail = .pad → back = []) ∧ ∀ glyph ∈ back, glyph.isCode = false := by
  have whole : transcript.glyphs.flatMap Glyph.shown = uncut.map Glyph.seen := by
    rw [splits.glyphs, List.flatMap_append, splits.seen (List.Subset.refl _), splits.cut_shown,
      List.append_nil]
  cases tail with
  | pad => exact ⟨uncut, [], (List.append_nil _).symm, whole, fun _ => rfl, by simp⟩
  | trim =>
    simp only [Transcript.shown]
    split
    · rename_i bare
      simp only [Bool.and_eq_true, Bool.not_eq_true', List.any_eq_false] at bare
      refine ⟨[], uncut, rfl, rfl, by simp, fun glyph member => ?_⟩
      simpa using bare.2 glyph (splits.glyphs ▸ List.mem_append_left _ member)
    split
    · obtain ⟨front, back, same, dropped, noCode⟩ := splits.rdropWhile
      refine ⟨front, back, same, ?_, by simp, noCode⟩
      rw [dropped, List.flatMap_append, splits.cut_shown, List.append_nil]
      exact splits.seen fun glyph member => same ▸ List.mem_append_left _ member
    · exact ⟨uncut, [], (List.append_nil _).symm, whole, by simp, by simp⟩

theorem getElem?_front {front back : List Glyph} {glyph : Glyph} {column : Nat}
    (found : (front ++ back)[column]? = some glyph) (notBehind : glyph ∉ back) :
    front[column]? = some glyph := by
  rcases Nat.lt_or_ge column front.length with before | behind
  · rwa [List.getElem?_append_left before] at found
  · rw [List.getElem?_append_right behind] at found
    exact absurd (List.mem_of_getElem? found) notBehind

/-- Code is in its column in what remains. -/
theorem Splits.keeps (splits : transcript.Splits uncut cut) (tail : CommentTail) (carried : Bool) :
    Keeps transcript.glyphs (String.ofList (transcript.shown tail carried)) := by
  obtain ⟨front, back, same, shown, -, noCode⟩ := splits.shown tail carried
  intro column glyph found code
  have standing : glyph.standing ≠ .comment ∧ glyph.standing ≠ .cut := by
    simp only [Glyph.isCode, Bool.and_eq_true, bne_iff_ne] at code
    exact code.1
  have uncut : glyph ∉ cut := fun member => standing.2 (splits.behind glyph member)
  have notDropped : glyph ∉ back := fun member => by simp [noCode glyph member] at code
  rw [splits.glyphs] at found
  have inUncut := getElem?_front found uncut
  rw [same] at inUncut
  have inFront := getElem?_front inUncut notDropped
  rw [shown, String.toList_ofList, List.getElem?_map, inFront]
  simp [Glyph.seen, standing.1]

end Transcript

theorem Mode.IsBetween.ne_cut {mode : Mode} (between : mode.IsBetween) :
    Phase.ofMode mode ≠ .cut := by
  rintro cut
  cases mode with
  | lineComment =>
    rcases between with same | inside
    · simp at same
    · simp [Mode.inBlockComment] at inside
  | _ => simp [Phase.ofMode] at cut

theorem Keeps.append {row : List Glyph} {text : String} (keeps : Keeps row text)
    (delimiter : String) : Keeps row (text ++ delimiter) := by
  intro column glyph found code
  have here := keeps column glyph found code
  have inside := (List.getElem?_eq_some_iff.mp here).1
  rwa [String.toList_append, List.getElem?_append_left inside]

theorem glyphRows_begins (number : Nat) (mode : Mode) (lines more : List String) :
    glyphRows number mode lines <+: glyphRows number mode (lines ++ more) := by
  induction lines generalizing number mode with
  | nil => exact List.nil_prefix
  | cons line lines ih => exact List.cons_prefix_cons.mpr ⟨rfl, ih _ _⟩

/-- The rows are the lines. -/
theorem chars_glyphRows (number : Nat) (mode : Mode) (lines : List String) :
    (glyphRows number mode lines).map (List.map Glyph.char) = lines.map String.toList := by
  induction lines generalizing number mode with
  | nil => rfl
  | cons line lines ih =>
    rw [glyphRows, List.map_cons, List.map_cons, ih, Transcript.chars_transcribe]

theorem line_of_glyphRows {lines : List String} {row : List Glyph} {i : Nat}
    (found : (glyphRows number mode lines)[i]? = some row) :
    ∃ line, lines[i]? = some line ∧ row.map Glyph.char = line.toList := by
  have same := congrArg (·[i]?) (chars_glyphRows number mode lines)
  simp only [List.getElem?_map, found, Option.map_some] at same
  obtain ⟨line, known, chars⟩ := Option.map_eq_some_iff.mp same.symm
  exact ⟨line, known, chars.symm⟩

namespace Carry

variable {carry : Carry} {line : String} {tail : CommentTail} {reading : Reading}

/-- An accepted line, told by its characters. -/
theorem shown_of_readLine (passed : carry.readLine tail number line = .ok reading) :
    let transcript := transcribe number (.ofMode carry.mode) line.toList
    reading.stripped.text = String.ofList (transcript.shown tail carry.mode.inBlockComment) ∧
      reading.after.mode = transcript.phase.mode.afterLine ∧
      transcript.phase.mode ≠ .string := by
  obtain ⟨marking, -, closed, mode, stripped⟩ := readLine_ok passed
  obtain ⟨-, ending⟩ := Marking.agrees_read number carry.mode line.toList
  rw [marking, ending] at closed mode
  refine ⟨?_, mode, closed⟩
  rw [stripped, marking, Marking.shown_eq_transcribe]

/-- Whether a line is accepted does not depend on what remains of comments. -/
theorem readLine_tail (other : CommentTail)
    (passed : carry.readLine tail number line = .ok reading) :
    ∃ reading, carry.readLine other number line = .ok reading := by
  obtain ⟨marking, followed, closed, -, -⟩ := readLine_ok passed
  rw [marking] at followed closed
  obtain ⟨stripped, accepted⟩ := readLine_of_follow carry other number line followed closed
  exact ⟨_, accepted⟩

/-- Every accepted line keeps its code where it is. -/
theorem keeps_of_readLines (between : carry.mode.IsBetween)
    (passed : carry.readLines tail number lines = .ok (readings, final)) :
    List.Forall₂ (fun reading row => Keeps row reading.stripped.text) readings
      (glyphRows number carry.mode lines) := by
  induction lines generalizing carry number readings with
  | nil =>
    have none : readings = [] := List.eq_nil_of_length_eq_zero (length_readLines passed)
    rw [none]
    exact .nil
  | cons line lines ih =>
    obtain ⟨reading, rest, read, readRest, rfl⟩ := readLines_cons passed
    obtain ⟨text, mode, closed⟩ := shown_of_readLine read
    obtain ⟨uncut, cut, splits⟩ :=
      Transcript.splits_transcribe number between.ne_cut line.toList
    have behind := ih (mode ▸ .afterLine closed) readRest
    rw [mode] at behind
    exact .cons (text ▸ splits.keeps tail carry.mode.inBlockComment) behind

end Carry

/-- What stands behind a line moves nothing in it. -/
theorem keeps_delivered {readings : List Reading} {rows : List (List Glyph)}
    {outputs : List String}
    (keeps : List.Forall₂ (fun reading row => Keeps row reading.stripped.text) readings rows)
    (delivers : List.Forall₂ Delivers readings outputs) : List.Forall₂ Keeps rows outputs := by
  induction keeps generalizing outputs with
  | nil =>
    cases delivers
    exact .nil
  | cons here _ ih =>
    cases delivers with
    | cons delivered behind =>
      obtain ⟨delimiter, -, rfl⟩ := delivered
      exact .cons (here.append delimiter) (ih behind)

/-- What is answered stands in front of what would be answered to accepted lines. -/
theorem processLines_begins (options : Options) (lines : List String) :
    ∃ accepted behind events final openLevels, lines = accepted ++ behind ∧
      Tracker.Trace options {} accepted events final ∧
      (processLines options lines).lines <+: delivered (closers openLevels) events := by
  cases failed : (processLines options lines).fault? with
  | none =>
    obtain ⟨events, final, trace, -, same⟩ := trace_of_processLines failed
    refine ⟨lines, [], events, final, final.levels.depth, (List.append_nil _).symm, trace, ?_⟩
    simp only [same, List.prefix_rfl]
  | some fault =>
    rw [processLines_eq_foresee] at failed ⊢
    obtain ⟨accepted, behind, events, next, split, trace, ready, -⟩ :=
      Session.fails_of_foresee failed
    refine ⟨accepted, behind, events, next, 0, split, trace, ?_⟩
    rw [ready]
    exact Holdback.ready_takeAll_prefix_delivered 0 events

/-- Columns are kept. Of an accepted line, each character in front of the line comment leaves one: a
blank if it lies in a block comment, and itself otherwise. Trimming takes from the end only, so code
stays where it is; and in whatever a run answers, with a fault at its end or not, the code of a line
is in the columns it has in the line. -/
theorem Carry.columns_are_kept :
    (∀ (carry : Carry) (number : Nat) (line : String) (tail : CommentTail) (reading : Reading),
      carry.mode.IsBetween → carry.readLine tail number line = .ok reading →
      ∃ uncut cut padded trimmed,
        let transcript := transcribe number (.ofMode carry.mode) line.toList
        transcript.Splits uncut cut ∧ (uncut ++ cut).map Glyph.char = line.toList ∧
        carry.readLine .pad number line = .ok padded ∧
        padded.stripped.text.toList = uncut.map Glyph.seen ∧
        carry.readLine .trim number line = .ok trimmed ∧
        trimmed.stripped.text.toList <+: padded.stripped.text.toList ∧
        Keeps transcript.glyphs trimmed.stripped.text) ∧
    ∀ (options : Options) (lines : List String) (i : Nat) (output : String),
      (processLines options lines).lines[i]? = some output →
      ∃ line row, lines[i]? = some line ∧ (glyphRows 1 .code lines)[i]? = some row ∧
        row.map Glyph.char = line.toList ∧ Keeps row output := by
  refine ⟨?_, ?_⟩
  · intro carry number line tail reading between read
    obtain ⟨padded, readPadded⟩ := Carry.readLine_tail .pad read
    obtain ⟨trimmed, readTrimmed⟩ := Carry.readLine_tail .trim read
    obtain ⟨uncut, cut, splits⟩ :=
      Transcript.splits_transcribe number between.ne_cut line.toList
    have whole := Transcript.chars_transcribe number (.ofMode carry.mode) line.toList
    obtain ⟨all, none, same, shownPadded, noBack, -⟩ := splits.shown .pad carry.mode.inBlockComment
    obtain ⟨front, back, split, shownTrimmed, -, -⟩ := splits.shown .trim carry.mode.inBlockComment
    obtain ⟨textPadded, -, -⟩ := Carry.shown_of_readLine readPadded
    obtain ⟨textTrimmed, -, -⟩ := Carry.shown_of_readLine readTrimmed
    have full : padded.stripped.text.toList = uncut.map Glyph.seen := by
      rw [textPadded, shownPadded, String.toList_ofList, same, noBack rfl, List.append_nil]
    refine ⟨uncut, cut, padded, trimmed, splits, splits.glyphs ▸ whole, readPadded, full,
      readTrimmed, ?_, textTrimmed ▸ splits.keeps .trim carry.mode.inBlockComment⟩
    rw [full, textTrimmed, shownTrimmed, String.toList_ofList, split, List.map_append]
    exact List.prefix_append _ _
  · intro options lines i output answered
    obtain ⟨accepted, behind, events, final, openLevels, rfl, trace, first⟩ :=
      processLines_begins options lines
    obtain ⟨readings, read, texts⟩ := trace.texts
    have keeps := keeps_delivered (Carry.keeps_of_readLines (.inl rfl) read)
      (delivers_delivered openLevels texts)
    obtain ⟨inLines, rfl⟩ := List.getElem?_eq_some_iff.mp answered
    have inOutput := Nat.lt_of_lt_of_le inLines first.length_le
    have inRows : i < (glyphRows 1 .code accepted).length := keeps.length_eq ▸ inOutput
    have whole := List.prefix_iff_getElem?.mp
      (glyphRows_begins 1 .code accepted behind) i inRows
    obtain ⟨line, known, chars⟩ := line_of_glyphRows whole
    refine ⟨line, _, known, whole, chars, ?_⟩
    rw [first.getElem inLines]
    exact keeps.get inRows inOutput

/-- Two comments on the first line, the second of which ends on the next line, among characters of
several bytes. -/
theorem Carry.columns_are_kept_wide :
    let lines := ["é /* ☃ */ \"/*\" 𝛼 /* c", " */\té // ☃"]
    let carry : Carry := ⟨.blockComment 1, {}⟩
    (carry.mode.IsBetween ∧ ∃ reading, carry.readLine .trim 2 " */\té // ☃" = .ok reading ∧
      ∃ uncut cut padded trimmed,
        let transcript := transcribe 2 (.comment 1) " */\té // ☃".toList
        transcript.Splits uncut cut ∧ (uncut ++ cut).map Glyph.char = " */\té // ☃".toList ∧
        carry.readLine .pad 2 " */\té // ☃" = .ok padded ∧
        padded.stripped.text.toList = uncut.map Glyph.seen ∧
        carry.readLine .trim 2 " */\té // ☃" = .ok trimmed ∧
        trimmed.stripped.text.toList <+: padded.stripped.text.toList ∧
        Keeps transcript.glyphs trimmed.stripped.text) ∧
    (processLines { strict := false } lines).lines[0]? = some "é         \"/*\" 𝛼 \x7b" ∧
    ∃ line row, lines[0]? = some line ∧ (glyphRows 1 .code lines)[0]? = some row ∧
      row.map Glyph.char = line.toList ∧ Keeps row "é         \"/*\" 𝛼 \x7b" := by
  intro lines carry
  obtain ⟨reading, read⟩ : ∃ reading, carry.readLine .trim 2 " */\té // ☃" = .ok reading :=
    ⟨_, rfl⟩
  have answered : (processLines { strict := false } lines).lines[0]? =
      some "é         \"/*\" 𝛼 \x7b" := by
    decide +kernel
  exact ⟨⟨.inr rfl, reading, read,
      Carry.columns_are_kept.1 carry 2 _ .trim reading (.inr rfl) read⟩,
    answered, Carry.columns_are_kept.2 _ lines 0 _ answered⟩

end Offside
