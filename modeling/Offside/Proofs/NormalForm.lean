import Mathlib.Data.List.Forall2
import Offside.Proofs.ReadBack

/-! Stripping comments is a normal form. What remains of the lines is read once more with nothing to
strip (`Carry.readLines_again`), and a run over it is the run over the lines
(`processLines_stripped`). -/

namespace Offside

namespace Segment

/-- Counting brackets looks at nothing else. -/
theorem follow_eq_foldlM (nesting : Nesting) (segments : List Segment) :
    follow nesting segments =
      (segments.filterMap bracket?).foldlM
        (fun (nesting : Nesting) opens => if opens then .ok nesting.push else nesting.pop)
        nesting := by
  fun_induction follow nesting segments with
  | case1 nesting => rfl
  | case2 nesting rest ih =>
    simp only [bracket?, List.filterMap_cons, List.foldlM_cons]
    exact ih
  | case3 nesting rest inner popped ih =>
    simp only [bracket?, List.filterMap_cons, List.foldlM_cons, popped]
    exact ih
  | case4 nesting rest cause popped =>
    simp only [bracket?, List.filterMap_cons, List.foldlM_cons, popped]
    rfl
  | case5 nesting segment rest noOpen noClose ih =>
    have none : segment.bracket? = none := by
      cases segment <;> simp_all [bracket?]
    simpa [none] using ih

theorem follow_congr {first second : List Segment}
    (same : first.filterMap bracket? = second.filterMap bracket?) (nesting : Nesting) :
    follow nesting first = follow nesting second := by
  rw [follow_eq_foldlM, follow_eq_foldlM, same]

theorem ledByComment_of_none {segments : List Segment}
    (none : ∀ segment ∈ segments, segment.opensComment = false) :
    ledByComment segments = false := by
  unfold ledByComment
  split
  · rename_i segment found
    exact none segment (List.mem_of_find?_eq_some found)
  · rfl

end Segment

namespace Marking

variable {number : Nat} {mode : Mode} {lexemes : List Lexeme}

/-- A line comment ends the line. -/
theorem mode_of_lineComment (member : .lineComment run ∈ (read number mode lexemes).segments) :
    (read number mode lexemes).mode = .lineComment := by
  fun_induction read number mode lexemes with
  | case6 lexeme rest _ _ _ _ ih =>
    refine ih ?_
    rcases List.mem_cons.mp member with same | behind
    · cases lexeme <;> simp [codeSegment] at same
    · exact behind
  | _ => simp_all [cons]

/-- Where no character belongs to a comment, none is opened. -/
theorem opensComment_of_glyphs
    (kept : ∀ glyph ∈ (read number mode lexemes).glyphs, glyph.standing ≠ .comment)
    (code : (read number mode lexemes).mode = .code) :
    ∀ segment ∈ (read number mode lexemes).segments, segment.opensComment = false := by
  intro segment member
  cases segment with
  | lineComment run => simp [mode_of_lineComment member] at code
  | opener =>
    have part : (⟨'/', .comment⟩ : Glyph) ∈ (read number mode lexemes).glyphs :=
      List.mem_flatMap.mpr ⟨.opener, member, List.mem_cons_self⟩
    exact absurd rfl (kept _ part)
  | _ => rfl

end Marking

/-- The marking of what remains of a line: it ends in code, has the brackets of the line, shows all
of it and opens no comment. -/
structure Marking.IsBare (marking first : Marking) (text : List Char) : Prop where
  mode : marking.mode = .code
  brackets : marking.segments.filterMap Segment.bracket? =
    first.segments.filterMap Segment.bracket?
  padded : marking.padded = text
  opens : ∀ segment ∈ marking.segments, segment.opensComment = false

/-- The second line is the first one read again: nothing has changed but that there are no comments
any more. -/
structure Reading.Rests (first second : Reading) : Prop where
  stripped : second.stripped =
    { first.stripped with ledByComment := false, codeAfterCarriedComment := false }
  after : second.after = ⟨.code, first.after.nesting⟩

namespace Carry

variable {tail : CommentTail} {carry final : Carry} {line : String} {lines : List String}
variable {reading : Reading} {readings : List Reading}

theorem isBare_of_readLine (read : carry.readLine tail number line = .ok reading)
    (outside : carry.mode ≠ .string) (second : Nat) :
    (Marking.read second .code (Lexeme.ofLine reading.stripped.text.toList)).IsBare reading.marking
      reading.stripped.text.toList := by
  obtain ⟨glyphs, shown, kept, brackets, reread⟩ := reread_of_readLine read outside
  have transcript := reread second [] (by simp)
  rw [List.append_nil, transcribe, Transcript.prepend, List.append_nil] at transcript
  obtain ⟨same, mode⟩ := Marking.agrees_read second .code reading.stripped.text.toList
  rw [Phase.ofMode, transcript] at same mode
  dsimp only at same mode
  have code : (phaseBehind reading.stripped.text.toList).mode = .code := by
    unfold phaseBehind
    split <;> rfl
  rw [code] at mode
  refine ⟨mode, ?_, ?_, ?_⟩
  · rw [← Marking.brackets_glyphs, ← Marking.glyphs, same, brackets]
  · rw [Marking.padded, ← Marking.shown_glyphs, ← Marking.glyphs, same, shown]
  · exact Marking.opensComment_of_glyphs (fun glyph member => (kept glyph (same ▸ member)).1) mode

/-- What remains of a line remains of it when it is read again. -/
theorem readLine_again (read : carry.readLine tail number line = .ok reading)
    (outside : carry.mode ≠ .string) (tailToo : CommentTail) :
    ∃ again, readLine tailToo number reading.stripped.text ⟨.code, carry.nesting⟩ = .ok again ∧
      reading.Rests again := by
  have bare := isBare_of_readLine read outside number
  obtain ⟨_, followed, _, _, stripped⟩ := readLine_ok read
  have followedAgain : Segment.follow carry.nesting
      (Marking.read number .code (Lexeme.ofLine reading.stripped.text.toList)).segments =
        .ok reading.after.nesting :=
    (Segment.follow_congr bare.brackets _).trans followed
  obtain ⟨again, readAgain⟩ := readLine_of_follow ⟨.code, carry.nesting⟩ tailToo number
    reading.stripped.text followedAgain (by simp [bare.mode])
  refine ⟨_, readAgain, ?_, by rw [bare.mode]; rfl⟩
  obtain ⟨_, _, _, _, strippedAgain⟩ := readLine_ok readAgain
  have text : (Marking.read number .code
      (Lexeme.ofLine reading.stripped.text.toList)).shown tailToo false =
        reading.stripped.text.toList := by
    rw [← bare.padded]
    cases tailToo <;>
      simp [Marking.shown, Marking.trimmed, Mode.inBlockComment, bare.mode, bare.padded]
  dsimp only [Mode.inBlockComment] at strippedAgain
  rw [strippedAgain, Segment.ledByComment_of_none bare.opens, text, String.ofList_toList]
  rw [stripped]
  rfl

theorem mode_of_readLine (read : carry.readLine tail number line = .ok reading) :
    reading.after.mode ≠ .string := by
  obtain ⟨_, _, closed, mode, _⟩ := readLine_ok read
  rw [mode]
  cases behind : reading.marking.mode with
  | string => exact absurd behind closed
  | _ => simp [Mode.afterLine]

/-- What remains of the lines remains of them when they are read again. -/
theorem readLines_again (read : carry.readLines tail number lines = .ok (readings, final))
    (outside : carry.mode ≠ .string) (tailToo : CommentTail) :
    ∃ again, readLines tailToo ⟨.code, carry.nesting⟩ number (readings.map (·.stripped.text)) =
        .ok (again, ⟨.code, final.nesting⟩) ∧
      List.Forall₂ Reading.Rests readings again := by
  induction lines generalizing carry number readings with
  | nil =>
    cases read
    exact ⟨[], rfl, .nil⟩
  | cons line lines ih =>
    obtain ⟨reading, rest, here, behind, rfl⟩ := readLines_cons read
    obtain ⟨again, readAgain, rests⟩ := readLine_again here outside tailToo
    obtain ⟨others, readOthers, same⟩ := ih behind (mode_of_readLine here)
    rw [← rests.after] at readOthers
    exact ⟨again :: others, readLines_of_cons readAgain readOthers, .cons rests same⟩

end Carry

namespace Tracker

variable {options : Options} {tracker next final : Tracker} {lines : List String}
variable {events : List Event} {reading : Reading} {readings : List Reading}

theorem step_of_readLine (read : tracker.carry.readLine options.tail number line = .ok reading)
    (role : Role options reading.stripped
      { tracker with carry := reading.after, lastLine := number } event next) :
    tracker.step options number line = (.ok event, next) := by
  rw [step, Carry.strip_of_readLine read]
  exact classify_of_role role

/-- The tracker as if no comment were around the place. -/
def settled (tracker : Tracker) : Tracker :=
  { tracker with carry := ⟨.code, tracker.carry.nesting⟩ }

/-- The role of a line is known from what remains of it and the levels, unless a comment is
misplaced. -/
theorem Role.congr {line lineToo : StrippedLine} {trackerToo : Tracker} {other : Options}
    (role : Role options line tracker event next) (text : lineToo.text = line.text)
    (depth : lineToo.depthAtStart = line.depthAtStart) (levels : trackerToo.levels = tracker.levels)
    (placed : line.isEmpty = false → (options.strict = true → line.misplacedComment? = none) →
      other.strict = true → lineToo.misplacedComment? = none) :
    Role other lineToo trackerToo event { trackerToo with levels := next.levels } := by
  have empty : lineToo.isEmpty = line.isEmpty := by rw [StrippedLine.isEmpty, text]; rfl
  have width : lineToo.width = line.width := by rw [StrippedLine.width, text]; rfl
  cases role with
  | blank isEmpty =>
    rw [← text, ← levels]
    exact .blank (empty.trans isEmpty)
  | nested filled inside =>
    rw [← text, ← levels]
    exact .nested (empty.trans filled) (depth ▸ inside)
  | content filled outside free observed =>
    rw [← text]
    refine .content (empty.trans filled) (depth.trans outside) (placed filled free) ?_
    rw [width, levels]
    exact observed

/-- A run over what remains of the lines goes as the run over the lines. -/
theorem Trace.again {carry : Carry} (trace : Trace options tracker lines events final)
    (outside : tracker.carry.mode ≠ .string)
    (read : tracker.carry.readLines options.tail (tracker.lastLine + 1) lines =
      .ok (readings, carry)) (other : Options) :
    Trace other tracker.settled (readings.map (·.stripped.text)) events final.settled := by
  induction trace generalizing readings with
  | done =>
    cases read
    exact .done
  | @step line event lines events final tracker next passed rest ih =>
    obtain ⟨reading, readFirst, carried, numbered, role⟩ := reading_of_step passed
    obtain ⟨found, others, readAlso, behind, rfl⟩ := Carry.readLines_cons read
    obtain rfl : reading = found := Except.ok.inj (readFirst.symm.trans readAlso)
    obtain ⟨again, readAgain, rests⟩ := Carry.readLine_again readFirst outside other.tail
    rw [← carried, ← numbered] at behind
    have later := ih (carried ▸ Carry.mode_of_readLine readFirst) behind
    have levels : next.settled =
        { tracker.settled with
          carry := again.after
          lastLine := tracker.lastLine + 1
          levels := next.levels } := by
      rw [settled, carried, numbered.symm, rests.after]
    refine .step (step_of_readLine readAgain ?_) later
    rw [rests.stripped, levels]
    exact role.congr rfl rfl rfl fun _ _ _ => rfl

end Tracker

/-- A run over what remains of the lines of a text puts out the same lines, whatever is chosen for
it. -/
theorem processLines_stripped {options : Options} {lines : List String} {carry : Carry}
    {readings : List Reading} (passed : (processLines options lines).fault? = none)
    (read : ({} : Carry).readLines options.tail 1 lines = .ok (readings, carry)) (other : Options) :
    processLines other (readings.map (·.stripped.text)) = processLines options lines := by
  obtain ⟨events, final, trace, closed, _⟩ := trace_of_processLines passed
  have again : Tracker.Trace other {} (readings.map (·.stripped.text)) events final.settled :=
    trace.again (by simp) read other
  rw [processLines_of_trace trace closed, processLines_of_trace again rfl]
  rfl

end Offside
