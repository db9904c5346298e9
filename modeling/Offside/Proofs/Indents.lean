import Offside.Proofs.Columns

/-! What a line starts with when its indentation counts. The blanks in front of its code are those
of the line as it was written, and the width is theirs, unless a comment follows them
(`Tracker.width_eq_indent_iff`). Such a comment is only noticed behind spaces and tabs. -/

namespace Offside

/-- The blanks that a line starts with. -/
def indentOf (line : String) : List Char :=
  line.toList.takeWhile isBlank

def OpensComment (chars : List Char) : Prop :=
  ∃ rest, chars = '/' :: '/' :: rest ∨ chars = '/' :: '*' :: rest

/-- What comes first on the line, blanks aside, is the mark of a comment. -/
def LeadsWithComment (line : String) : Prop :=
  OpensComment (line.toList.dropWhile isBlank)

/-- Steps over lines of any numbers, all of which are accepted. -/
inductive Tracker.Accepts (options : Options) : Tracker → List (Nat × String) → Tracker → Prop where
  | done {tracker : Tracker} : Accepts options tracker [] tracker
  | step {tracker next final : Tracker} {line : String}
      (passed : tracker.step options number line = (.ok event, next))
      (rest : Accepts options next lines final) :
      Accepts options tracker ((number, line) :: lines) final

/-- The line with more text in front of it. -/
def StrippedLine.prepend (front : String) (line : StrippedLine) : StrippedLine :=
  { line with text := front ++ line.text }

theorem joinsRun_of_isBlank {c : Char} (blank : isBlank c = true) : JoinsRun c := by
  by_contra alone
  rcases not_joinsRun alone with rfl | rfl | rfl | rfl | rfl | rfl <;> simp [isBlank] at blank

section Chars

variable {c : Char} {line : String} {indent rest : List Char}

theorem isBlank_of_mem_indentOf (member : c ∈ indentOf line) : isBlank c = true :=
  List.mem_takeWhile_imp member

theorem indentOf_append (line : String) :
    indentOf line ++ line.toList.dropWhile isBlank = line.toList :=
  List.takeWhile_append_dropWhile

theorem visible_behind_indent (first : c ∈ (line.toList.dropWhile isBlank).head?) :
    isBlank c = false := by
  have ends := List.head?_dropWhile_not isBlank line.toList
  rwa [Option.mem_def.mp first] at ends

theorem opensFirst_cons (plain : ¬OpensComment (c :: rest)) :
    opensFirst .code (c :: rest) = ((c == ' ' || c == '\t') && opensFirst .code rest) := by
  rw [opensFirst]
  · rintro tail rfl rfl
    exact plain ⟨tail, .inl rfl⟩
  · rintro tail rfl rfl
    exact plain ⟨tail, .inr rfl⟩

/-- Of the blanks in front of a comment, only spaces and tabs are passed over. -/
theorem opensFirst_append (blanks : ∀ c ∈ indent, isBlank c = true) :
    opensFirst .code (indent ++ rest) =
      (indent.all (fun c => c == ' ' || c == '\t') && opensFirst .code rest) := by
  induction indent with
  | nil => rfl
  | cons c indent ih =>
    obtain ⟨here, behind⟩ := List.forall_mem_cons.mp blanks
    have plain : ¬OpensComment (c :: (indent ++ rest)) := by
      rintro ⟨tail, same | same⟩ <;> simp [(List.cons.inj same).1, isBlank] at here
    rw [List.cons_append, opensFirst_cons plain, ih behind, List.all_cons, Bool.and_assoc]

theorem opensFirst_iff (filled : ∀ c ∈ rest.head?, isBlank c = false) :
    opensFirst .code rest = true ↔ OpensComment rest := by
  by_cases opens : OpensComment rest
  · obtain ⟨tail, rfl | rfl⟩ := opens <;> simp [opensFirst, OpensComment]
  · cases rest with
    | nil => simp [opensFirst, OpensComment]
    | cons c rest =>
      have visible := filled c rfl
      have noGap : (c == ' ' || c == '\t') = false := by
        rw [Bool.eq_false_iff]
        intro gap
        have : c = ' ' ∨ c = '\t' := by simpa using gap
        rcases this with rfl | rfl <;> simp [isBlank] at visible
      simp [opensFirst_cons opens, noGap, opens]

/-- In code, the first character counts as part of a comment just when it starts one. -/
theorem head_transcribe (number : Nat) (c : Char) (rest : List Char) :
    ∃ standing more, (transcribe number .code (c :: rest)).glyphs = ⟨c, standing⟩ :: more ∧
      ((standing = .comment ∨ standing = .cut) ↔ OpensComment (c :: rest)) := by
  by_cases opens : OpensComment (c :: rest)
  · obtain ⟨tail, same | same⟩ := opens
    · obtain ⟨rfl, rfl⟩ := List.cons.inj same
      exact ⟨.cut, _, rfl, by simp [OpensComment]⟩
    · obtain ⟨rfl, rfl⟩ := List.cons.inj same
      exact ⟨.comment, _, rfl, by simp [OpensComment]⟩
  · by_cases joins : JoinsRun c
    · rw [Transcript.transcribe_joins number joins (by simp)]
      exact ⟨.kept, _, rfl, by simp [opens]⟩
    rcases not_joinsRun joins with rfl | rfl | rfl | rfl | rfl | rfl
    case neg.inr.inr.inl =>
      have apart : ∀ d ∈ rest.head?, d ≠ '/' ∧ d ≠ '*' := by
        intro d first
        obtain ⟨tail, rfl⟩ := List.head?_eq_some_iff.mp first
        constructor
        · rintro rfl
          exact opens ⟨tail, .inl rfl⟩
        · rintro rfl
          exact opens ⟨tail, .inr rfl⟩
      rw [Transcript.transcribe_slash number apart]
      exact ⟨.kept, _, rfl, by simp [opens]⟩
    all_goals exact ⟨_, _, rfl, by simp [opens]⟩

end Chars

theorem Glyph.follow_kept (chars : List Char) (nesting : Nesting) (glyphs : List Glyph) :
    follow nesting (chars.map (fun c => ⟨c, .kept⟩) ++ glyphs) = follow nesting glyphs := by
  induction chars with
  | nil => rfl
  | cons c chars ih => exact ih

namespace Transcript

/-- Dropping a comment at the end stops at a character that is none. -/
theorem rdropWhile_append {front : List Glyph} (kept : ∀ glyph ∈ front, glyph.standing ≠ .comment)
    (back : List Glyph) : (front ++ back).rdropWhile (·.standing == .comment) =
      front ++ back.rdropWhile (·.standing == .comment) := by
  induction back using List.reverseRecOn with
  | nil =>
    rw [List.append_nil, List.rdropWhile_nil, List.append_nil, List.rdropWhile_eq_self_iff]
    intro some
    simpa using kept _ (List.getLast_mem some)
  | append_singleton back glyph ih =>
    rw [← List.append_assoc, List.rdropWhile_concat, List.rdropWhile_concat]
    split
    · exact ih
    · exact List.append_assoc _ _ _

/-- What remains of a line starts with the characters in front that are kept. -/
theorem shown_prepend_kept (chars : List Char) (tail : CommentTail) (transcript : Transcript) :
    (transcript.prepend (chars.map fun c => ⟨c, .kept⟩)).shown tail false =
      chars ++ transcript.shown tail false := by
  have own : (chars.map fun c => (⟨c, .kept⟩ : Glyph)).flatMap Glyph.shown = chars := by
    simp [List.flatMap_map, Glyph.shown]
  have kept : ∀ glyph ∈ chars.map fun c => (⟨c, .kept⟩ : Glyph), glyph.standing ≠ .comment := by
    simp
  cases tail with
  | pad => simp only [shown, prepend, List.flatMap_append, own]
  | trim =>
    by_cases ends : transcript.phase.mode.inBlockComment = true
    · simp only [shown, prepend, Bool.false_and, Bool.false_eq_true, ends, ↓reduceIte,
        rdropWhile_append kept, List.flatMap_append, own]
    · simp only [shown, prepend, Bool.false_and, Bool.false_eq_true, ends, ↓reduceIte,
        List.flatMap_append, own]

/-- What remains of code starts with its first character, or with a blank if that starts a
comment. -/
theorem shown_code_cons (number : Nat) (tail : CommentTail) (c : Char) (rest : List Char) :
    (transcribe number .code (c :: rest)).shown tail false = [] ∨
      ∃ first more, (transcribe number .code (c :: rest)).shown tail false = first :: more ∧
        (OpensComment (c :: rest) → first = ' ') ∧ (¬OpensComment (c :: rest) → first = c) := by
  obtain ⟨uncut, cut, splits⟩ :=
    splits_transcribe number (show Phase.code ≠ .cut by simp) (c :: rest)
  obtain ⟨front, back, same, shown, -, -⟩ := splits.shown tail false
  obtain ⟨standing, more, glyphs, comment⟩ := head_transcribe number c rest
  cases front with
  | nil => exact .inl shown
  | cons glyph front =>
    have first : glyph = ⟨c, standing⟩ := by
      have whole := splits.glyphs
      rw [glyphs, same, List.cons_append, List.cons_append] at whole
      exact (List.cons.inj whole).1.symm
    have uncut : standing ≠ .cut := by
      have := splits.before glyph (same ▸ List.mem_cons_self)
      rwa [first] at this
    refine .inr ⟨_, _, shown, ?_, ?_⟩
    · intro opens
      have standing := (comment.mpr opens).resolve_right uncut
      simp [Glyph.seen, first, standing]
    · intro plain
      have standing : standing ≠ .comment := fun same => plain (comment.mp (.inl same))
      simp [Glyph.seen, first, standing]

end Transcript

namespace Carry

variable {carry : Carry} {tail : CommentTail} {line : String} {reading : Reading}

/-- Blanks in front of a line that starts in code stand in front of what remains of it, and change
nothing else if a comment behind them is noticed as it would be without them. -/
theorem strip_append {indent rest : String}
    (blanks : ∀ c ∈ indent.toList, isBlank c = true) (code : carry.mode = .code)
    (led : opensFirst .code (indent.toList ++ rest.toList) = opensFirst .code rest.toList)
    (tail : CommentTail) (number : Nat) :
    carry.strip tail number (indent ++ rest) =
      ((carry.strip tail number rest).1.map (StrippedLine.prepend indent),
        (carry.strip tail number rest).2) := by
  let transcript := transcribe number .code rest.toList
  let whole := transcript.prepend (indent.toList.map (⟨·, .kept⟩))
  have read : transcribe number .code (indent.toList ++ rest.toList) = whole :=
    Transcript.transcribe_run number (fun c member => joinsRun_of_isBlank (blanks c member))
      (by simp) rfl rest.toList
  have followed : Glyph.follow carry.nesting whole.glyphs =
      Glyph.follow carry.nesting transcript.glyphs :=
    Glyph.follow_kept indent.toList carry.nesting transcript.glyphs
  have ending : whole.phase = transcript.phase := rfl
  have shown : whole.shown tail false = indent.toList ++ transcript.shown tail false :=
    Transcript.shown_prepend_kept indent.toList tail transcript
  rw [strip_eq_peruse, strip_eq_peruse]
  simp only [peruse, code, Phase.ofMode, Mode.inBlockComment, String.toList_append, read, led,
    followed, ending, shown, Bool.false_and]
  cases Glyph.follow carry.nesting transcript.glyphs with
  | error cause => rfl
  | ok nesting =>
    cases transcript.phase.mode <;>
      simp [Except.map, StrippedLine.prepend, transcript]

/-- Of a line that starts in code, the blanks in front are kept. -/
theorem text_of_readLine (read : carry.readLine tail number line = .ok reading)
    (code : carry.mode = .code) :
    reading.stripped.text.toList = indentOf line ++
      (transcribe number .code (line.toList.dropWhile isBlank)).shown tail false := by
  obtain ⟨text, -, -⟩ := shown_of_readLine read
  have outside : Mode.code.inBlockComment = false := rfl
  have joins : ∀ c ∈ indentOf line, JoinsRun c :=
    fun _ member => joinsRun_of_isBlank (isBlank_of_mem_indentOf member)
  have front := Transcript.transcribe_run number joins (show Phase.code ≠ .cut by simp) rfl
    (line.toList.dropWhile isBlank)
  rw [indentOf_append] at front
  rw [text, String.toList_ofList, code, Phase.ofMode, front, outside]
  exact Transcript.shown_prepend_kept (indentOf line) tail _

/-- The width of a line that starts in code counts the blanks in front, and no others unless a
comment follows them. -/
theorem width_of_readLine (read : carry.readLine tail number line = .ok reading)
    (code : carry.mode = .code) (filled : reading.stripped.isEmpty = false) :
    reading.stripped.width = (indentOf line).length ↔ ¬LeadsWithComment line := by
  have text := text_of_readLine read code
  have blanks : ∀ c ∈ indentOf line, isBlank c = true :=
    fun _ member => isBlank_of_mem_indentOf member
  rw [StrippedLine.isEmpty, text, List.all_append, List.all_eq_true.mpr blanks,
    Bool.true_and] at filled
  rw [StrippedLine.width, LeadsWithComment, text, List.takeWhile_append_of_pos blanks,
    List.length_append]
  cases split : line.toList.dropWhile isBlank with
  | nil =>
    rw [split] at filled
    cases tail <;> simp [transcribe, Transcript.shown] at filled
  | cons c rest =>
    rw [split] at filled
    have visible : isBlank c = false := visible_behind_indent (by rw [split]; rfl)
    rcases Transcript.shown_code_cons number tail c rest with
      none | ⟨first, more, shown, opens, plain⟩
    · simp [none] at filled
    rw [shown]
    by_cases mark : OpensComment (c :: rest)
    · have blank : isBlank ' ' = true := by decide
      simp [opens mark, mark, List.takeWhile_cons_of_pos blank]
    · simp [plain mark, mark, visible]

/-- A line of which more than blanks remains has code, or starts in code. -/
theorem hasCode_of_carried (read : carry.readLine tail number line = .ok reading)
    (carried : carry.mode.inBlockComment = true) (filled : reading.stripped.isEmpty = false) :
    reading.marking.hasCode = true := by
  cases tail with
  | pad => exact hasCode_of_readLine read filled
  | trim =>
    obtain ⟨-, -, -, -, stripped⟩ := readLine_ok read
    by_contra noCode
    have none : reading.marking.shown .trim carry.mode.inBlockComment = [] := by
      simp [Marking.shown, Marking.trimmed, carried, noCode]
    simp [stripped, none, StrippedLine.isEmpty] at filled

/-- The comments of a line whose indentation counts are misplaced just when the line starts inside
of one, or when one follows the blanks in front and these are spaces and tabs. -/
theorem misplaced_iff (between : carry.mode.IsBetween)
    (read : carry.readLine tail number line = .ok reading)
    (filled : reading.stripped.isEmpty = false) :
    reading.stripped.misplacedComment? ≠ none ↔
      carry.mode.inBlockComment = true ∨
        LeadsWithComment line ∧ ∀ c ∈ indentOf line, IsGap c := by
  obtain ⟨marking, -, -, -, stripped⟩ := readLine_ok read
  rw [Ne, StrippedLine.misplacedComment?_eq_none_iff, stripped]
  dsimp only
  rcases between with code | carried
  · have led : Segment.ledByComment reading.marking.segments = true ↔
        LeadsWithComment line ∧ ∀ c ∈ indentOf line, IsGap c := by
      rw [marking, Marking.ledByComment_eq_opensFirst, code, ← indentOf_append line, Phase.ofMode,
        opensFirst_append fun _ member => isBlank_of_mem_indentOf member, Bool.and_eq_true,
        opensFirst_iff fun _ first => visible_behind_indent first, and_comm]
      simp [LeadsWithComment, IsGap]
    simp [code, Mode.inBlockComment, ← led]
  · simp [carried, hasCode_of_carried read carried filled]

end Carry

namespace Tracker

variable {options : Options} {tracker next final : Tracker} {line : String} {reading : Reading}

theorem isBetween_of_step (passed : tracker.step options number line = (.ok event, next)) :
    next.carry.mode.IsBetween := by
  obtain ⟨reading, read, carried, -, -⟩ := reading_of_step passed
  obtain ⟨-, -, closed, mode, -⟩ := Carry.readLine_ok read
  rw [carried, mode]
  exact .afterLine closed

/-- Between accepted lines there is code, or a block comment. -/
theorem Accepts.isBetween {lines : List (Nat × String)}
    (accepts : Accepts options tracker lines final) (between : tracker.carry.mode.IsBetween) :
    final.carry.mode.IsBetween := by
  induction accepts with
  | done => exact between
  | step passed _ ih => exact ih (isBetween_of_step passed)

theorem Trace.isBetween {lines : List String} {events : List Event}
    (trace : Trace options tracker lines events final) (between : tracker.carry.mode.IsBetween) :
    final.carry.mode.IsBetween := by
  induction trace with
  | done => exact between
  | step passed _ ih => exact ih (isBetween_of_step passed)

/-- A line whose indentation counts is rejected for its comments just when they are misplaced. -/
theorem misplaced_of_step (strict : options.strict = true)
    (read : tracker.carry.readLine options.tail number line = .ok reading)
    (filled : reading.stripped.isEmpty = false) (outside : reading.stripped.depthAtStart = 0) :
    (∃ fault, (tracker.step options number line).1 = .error fault ∧
        fault.cause.isMisplacement = true) ↔ reading.stripped.misplacedComment? ≠ none := by
  have stripped := Carry.strip_of_readLine read
  have numbered := Carry.number_strip stripped
  cases misplaced : reading.stripped.misplacedComment? with
  | some cause =>
    have rejected : (tracker.step options number line).1 = .error ⟨number, cause⟩ := by
      simp [step, stripped, classify, filled, outside, strict, misplaced, numbered]
    simp [rejected, StrippedLine.isMisplacement_misplacedComment? misplaced]
  | none =>
    refine iff_of_false ?_ (by simp)
    rintro ⟨fault, failed, misplacement⟩
    rcases seen : tracker.levels.observe reading.stripped.width with ⟨cause | shift, levels⟩
    · have rejected : (tracker.step options number line).1 = .error ⟨number, cause⟩ := by
        simp [step, stripped, classify, filled, outside, strict, misplaced, numbered, seen]
      rw [rejected] at failed
      cases failed
      rcases Levels.observe_error seen with rfl | rfl
      · simp [Cause.isMisplacement] at misplacement
      · simp [Cause.isMisplacement] at misplacement
    · simp [step, stripped, classify, filled, outside, strict, misplaced, seen] at failed

/-- Where the places of comments count, the indentation of a line of code is what it was written
with. The text of the line starts with the blanks in front of it, and the width is the number of
these unless a comment follows them. A line whose indentation counts is rejected for its comments
just when it starts inside of one, or when one follows the blanks in front of it and all of these are
spaces and tabs. -/
theorem width_eq_indent_iff {lines : List (Nat × String)} (strict : options.strict = true)
    (accepts : Accepts options {} lines tracker) (number : Nat) (line : String) :
    (∀ text shift next, tracker.step options number line = (.ok (.content text shift), next) →
      ∃ reading, tracker.carry.readLine options.tail number line = .ok reading ∧
        reading.stripped.text = text ∧
        tracker.levels.observe reading.stripped.width = (.ok shift, next.levels) ∧
        indentOf line <+: text.toList ∧
        (reading.stripped.width = (indentOf line).length ↔ ¬LeadsWithComment line)) ∧
    ∀ reading, tracker.carry.readLine options.tail number line = .ok reading →
      reading.stripped.isEmpty = false → reading.stripped.depthAtStart = 0 →
      ((∃ fault, (tracker.step options number line).1 = .error fault ∧
          fault.cause.isMisplacement = true) ↔
        tracker.carry.mode.inBlockComment = true ∨
          LeadsWithComment line ∧ ∀ c ∈ indentOf line, IsGap c) := by
  have between := accepts.isBetween (.inl rfl)
  refine ⟨?_, ?_⟩
  · intro text shift next passed
    obtain ⟨reading, read, -, -, role⟩ := reading_of_step passed
    generalize content : Event.content text shift = event at role
    cases role with
    | blank | nested => simp at content
    | @content shift levels filled outside placed observed =>
      cases content
      have placed := placed strict
      have code : tracker.carry.mode = .code := by
        have free := mt (Carry.misplaced_iff between read filled).mpr (not_not.mpr placed)
        exact between.resolve_right fun carried => free (.inl carried)
      refine ⟨reading, read, rfl, observed, ?_, Carry.width_of_readLine read code filled⟩
      rw [Carry.text_of_readLine read code]
      exact List.prefix_append _ _
  · intro reading read filled outside
    rw [misplaced_of_step strict read filled outside, Carry.misplaced_iff between read filled]

/-- A blank other than a space or a tab hides the comment behind it, and the comment counts as
indentation. -/
theorem not_width_eq_indent :
    ∃ tracker next, Accepts {} {} [(1, "a")] tracker ∧
      tracker.step {} 2 "\u00a0/*x*/b" = (.ok (.content "\u00a0     b" .indent), next) ∧
      next.levels.widths = [6] ∧ (indentOf "\u00a0/*x*/b").length = 1 ∧
      LeadsWithComment "\u00a0/*x*/b" :=
  ⟨_, _, .step rfl .done, rfl, rfl, by decide, "x*/b".toList, .inr (by decide)⟩

/-- Behind a comment over two lines, a line with a blank of each kind in front and a comment at its
end. -/
theorem width_eq_indent_iff_carried :
    ∃ tracker next, Accepts {} {} [(1, "a /* b"), (7, "c */")] tracker ∧
      tracker.step {} 8 "\u00a0\td /* e" = (.ok (.content "\u00a0\td " .indent), next) ∧
      ∃ reading, tracker.carry.readLine .trim 8 "\u00a0\td /* e" = .ok reading ∧
        reading.stripped.text = "\u00a0\td " ∧
        tracker.levels.observe reading.stripped.width = (.ok .indent, next.levels) ∧
        indentOf "\u00a0\td /* e" <+: "\u00a0\td ".toList ∧
        (reading.stripped.width = (indentOf "\u00a0\td /* e").length ↔
          ¬LeadsWithComment "\u00a0\td /* e") := by
  obtain ⟨tracker, accepts, next, passed⟩ :
      ∃ tracker, Accepts {} {} [(1, "a /* b"), (7, "c */")] tracker ∧
        ∃ next, tracker.step {} 8 "\u00a0\td /* e" = (.ok (.content "\u00a0\td " .indent), next) :=
    ⟨_, .step rfl (.step rfl .done), _, rfl⟩
  exact ⟨tracker, next, accepts, passed,
    (width_eq_indent_iff rfl accepts 8 "\u00a0\td /* e").1 _ _ _ passed⟩

end Tracker

end Offside
