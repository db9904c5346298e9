import Offside.Proofs.Rereading

/-! Comments taken out of a line by hand (`Segment.Redacted`). Where a comment was, the line ends or
blanks stand; neither makes or breaks a mark, a quote, an escape or a bracket, so the rest of the
line is read as before (`Marking.fades_read`). -/

namespace Offside

/-- The source of a segment, or blanks in the place of its comment. -/
def Segment.redact (blanked : Bool) (segment : Segment) : List Char :=
  if blanked then segment.shown else segment.source

/-- A line from which comments have been taken out by hand: line comments may be cut off, and of
each block comment all characters may be replaced by blanks. The first flag says whether a block
comment that the line starts in is blanked, the last one whether one that it ends in is. -/
inductive Segment.Redacted : Bool → List Segment → List Char → Bool → Prop
  | done : Redacted blanked [] [] blanked
  | inside {segment : Segment} (within : segment.opensComment = false)
      (rest : Redacted blanked segments text after) :
      Redacted blanked (segment :: segments) (segment.redact blanked ++ text) after
  | opened {segment : Segment} (opens : segment.opensComment = true) (chosen : Bool)
      (rest : Redacted chosen segments text after) :
      Redacted blanked (segment :: segments) (segment.redact chosen ++ text) after

/-- What a place lies in once the block comment around it is blanked. -/
def Mode.redacted (blanked : Bool) : Mode → Mode
  | blockComment openedAt => if blanked then code else blockComment openedAt
  | mode => mode

/-- A space or a tab, of which runs of blanks consist. -/
def IsGap (c : Char) : Prop :=
  c = ' ' ∨ c = '\t'

theorem IsGap.joinsRun (gap : IsGap c) : JoinsRun c := by
  rcases gap with rfl | rfl <;> simp [JoinsRun]

namespace Lexeme

/-- A run is not empty and holds only characters of its kind. -/
def IsProper : Lexeme → Prop
  | space run => run ≠ [] ∧ ∀ c ∈ run, IsGap c
  | text run => run ≠ [] ∧ ∀ c ∈ run, JoinsRun c ∧ ¬IsGap c
  | _ => True

theorem IsProper.joins_space (proper : (space run).IsProper) : ∀ c ∈ run, JoinsRun c :=
  fun c member => (proper.2 c member).joinsRun

theorem IsProper.joins_text (proper : (text run).IsProper) : ∀ c ∈ run, JoinsRun c :=
  fun c member => (proper.2 c member).1

theorem isProper_cons {lexemes : List Lexeme} (c : Char)
    (proper : ∀ lexeme ∈ lexemes, lexeme.IsProper) :
    ∀ lexeme ∈ cons c lexemes, lexeme.IsProper := by
  fun_cases cons c lexemes with
  | case7 _ _ _ _ _ _ gap run rest =>
    obtain ⟨⟨_, here⟩, behind⟩ := List.forall_mem_cons.mp proper
    exact List.forall_mem_cons.mpr ⟨⟨by simp, List.forall_mem_cons.mpr ⟨gap, here⟩⟩, behind⟩
  | case8 _ _ _ _ _ _ gap =>
    exact List.forall_mem_cons.mpr ⟨⟨by simp, List.forall_mem_cons.mpr ⟨gap, by simp⟩⟩, proper⟩
  | case9 noQuote noBackslash noSlash noStar noOpen noClose noGap run rest =>
    obtain ⟨⟨_, here⟩, behind⟩ := List.forall_mem_cons.mp proper
    have joins : JoinsRun c := by
      simp [JoinsRun, noQuote, noBackslash, noSlash, noStar, noOpen, noClose]
    exact List.forall_mem_cons.mpr
      ⟨⟨by simp, List.forall_mem_cons.mpr ⟨⟨joins, noGap⟩, here⟩⟩, behind⟩
  | case10 noQuote noBackslash noSlash noStar noOpen noClose noGap =>
    have joins : JoinsRun c := by
      simp [JoinsRun, noQuote, noBackslash, noSlash, noStar, noOpen, noClose]
    exact List.forall_mem_cons.mpr ⟨⟨by simp, by simpa using ⟨joins, noGap⟩⟩, proper⟩
  | _ => exact List.forall_mem_cons.mpr ⟨trivial, proper⟩

theorem isProper_ofLine (line : List Char) : ∀ lexeme ∈ ofLine line, lexeme.IsProper := by
  induction line with
  | nil => simp [ofLine]
  | cons c line ih => exact isProper_cons c ih

/-- A piece is one character, or a run that starts with one of its kind. -/
theorem chars_eq_cons {lexeme : Lexeme} (proper : lexeme.IsProper) :
    ∃ c run, lexeme.chars = c :: run ∧ (∀ d ∈ run, JoinsRun d) ∧
      (lexeme ≠ .slash → c ≠ '/') ∧ (lexeme ≠ .star → c ≠ '*') := by
  cases lexeme with
  | space run =>
    obtain ⟨some, each⟩ := proper
    cases run with
    | nil => exact absurd rfl some
    | cons c run =>
      obtain ⟨gap, behind⟩ := List.forall_mem_cons.mp each
      exact ⟨c, run, rfl, fun d member => (behind d member).joinsRun,
        by rcases gap with rfl | rfl <;> simp, by rcases gap with rfl | rfl <;> simp⟩
  | text run =>
    obtain ⟨some, each⟩ := proper
    cases run with
    | nil => exact absurd rfl some
    | cons c run =>
      obtain ⟨⟨joins, _⟩, behind⟩ := List.forall_mem_cons.mp each
      refine ⟨c, run, rfl, fun d member => (behind d member).1, ?_, ?_⟩ <;> rintro _ rfl <;>
        simp [JoinsRun] at joins
  | _ => exact ⟨_, [], rfl, by simp, by simp, by simp⟩

end Lexeme

namespace Segment

variable {segment : Segment} {segments : List Segment} {text : List Char}

/-- What is neither blanked nor cut stays. -/
theorem redact_of_shown (same : segment.shown = segment.source) (blanked : Bool) :
    segment.redact blanked = segment.source := by
  cases blanked <;> simp [redact, same]

theorem Redacted.nil (redacted : Redacted blanked [] text after) : text = [] ∧ after = blanked := by
  cases redacted
  exact ⟨rfl, rfl⟩

theorem Redacted.cons (redacted : Redacted blanked (segment :: segments) text after) :
    ∃ chosen rest, text = segment.redact chosen ++ rest ∧ Redacted chosen segments rest after ∧
      (segment.opensComment = false → chosen = blanked) := by
  cases redacted with
  | inside within rest => exact ⟨blanked, _, rfl, rest, fun _ => rfl⟩
  | opened opens chosen rest => exact ⟨chosen, _, rfl, rest, fun none => by simp [opens] at none⟩

/-- A segment of code that stays is followed by what is left of the others. -/
theorem Redacted.kept (redacted : Redacted blanked (segment :: segments) text after)
    (within : segment.opensComment = false) (same : segment.shown = segment.source) :
    ∃ rest, text = segment.source ++ rest ∧ Redacted blanked segments rest after := by
  obtain ⟨chosen, rest, rfl, later, still⟩ := redacted.cons
  obtain rfl := still within
  exact ⟨rest, by rw [redact_of_shown same], later⟩

end Segment

/-- The characters of a line and those of the line with comments taken out: parts of comments are
the same, or blank, or gone. -/
inductive Glyph.Fades : List Glyph → List Glyph → Prop
  | done : Fades [] []
  | same (glyph : Glyph) (rest : Fades glyphs others) : Fades (glyph :: glyphs) (glyph :: others)
  | blanked (comment : glyph.standing = .comment) (rest : Fades glyphs others) :
      Fades (glyph :: glyphs) (⟨' ', .kept⟩ :: others)
  | cut (gone : glyph.standing = .cut) (rest : Fades glyphs others) : Fades (glyph :: glyphs) others

namespace Glyph.Fades

variable {glyphs others : List Glyph}

theorem refl (glyphs : List Glyph) : Fades glyphs glyphs := by
  induction glyphs with
  | nil => exact .done
  | cons glyph glyphs ih => exact .same glyph ih

theorem append (first : Fades glyphs others) (second : Fades more rest) :
    Fades (glyphs ++ more) (others ++ rest) := by
  induction first with
  | done => exact second
  | same glyph _ ih => exact .same glyph ih
  | blanked comment _ ih => exact .blanked comment ih
  | cut gone _ ih => exact .cut gone ih

theorem of_cut (gone : ∀ glyph ∈ glyphs, glyph.standing = .cut) : Fades glyphs [] := by
  induction glyphs with
  | nil => exact .done
  | cons glyph glyphs ih =>
    obtain ⟨here, behind⟩ := List.forall_mem_cons.mp gone
    exact .cut here (ih behind)

theorem of_blockComment {segment : Segment} (comment : segment.isBlockComment = true) :
    Fades segment.glyphs (segment.shown.map (⟨·, .kept⟩)) := by
  cases segment with
  | opener | closer => exact .blanked rfl (.blanked rfl .done)
  | comment run =>
    induction run with
    | nil => exact .done
    | cons c run ih => exact .blanked rfl (ih comment)
  | _ => simp [Segment.isBlockComment] at comment

theorem shown (fades : Fades glyphs others) : others.flatMap shown = glyphs.flatMap shown := by
  induction fades with
  | done => rfl
  | same glyph _ ih => simp [ih]
  | blanked comment _ ih => simp [Glyph.shown, comment, ih]
  | cut gone _ ih => simp [Glyph.shown, gone, ih]

theorem brackets (fades : Fades glyphs others) :
    others.filterMap bracket? = glyphs.filterMap bracket? := by
  induction fades with
  | done => rfl
  | same glyph _ ih => simp [List.filterMap_cons, ih]
  | blanked comment _ ih => simpa [List.filterMap_cons, bracket?, comment] using ih
  | cut gone _ ih => simpa [bracket?, gone] using ih

end Glyph.Fades

namespace Transcript

variable {number : Nat} {phase : Phase} {run rest : List Char} {c : Char}

/-- A character of a run does nothing. -/
theorem transcribe_joins (number : Nat) (joins : JoinsRun c) (uncut : phase ≠ .cut)
    (rest : List Char) :
    transcribe number phase (c :: rest) =
      (transcribe number phase.unescaped rest).prepend [⟨c, phase.inertStanding⟩] := by
  simp only [JoinsRun, List.mem_cons, List.not_mem_nil, or_false, not_or] at joins
  cases phase with
  | cut => exact absurd rfl uncut
  | code | string | comment openedAt =>
    simp [transcribe, joins, Phase.unescaped, Phase.inertStanding]
  | escape | stringEscape => simp [transcribe, Phase.unescaped, Phase.inertStanding]

theorem transcribe_run (number : Nat) (joins : ∀ c ∈ run, JoinsRun c) (uncut : phase ≠ .cut)
    (unescaped : phase.unescaped = phase) (rest : List Char) :
    transcribe number phase (run ++ rest) =
      (transcribe number phase rest).prepend (run.map (⟨·, phase.inertStanding⟩)) := by
  induction run with
  | nil => rfl
  | cons c run ih =>
    obtain ⟨here, behind⟩ := List.forall_mem_cons.mp joins
    rw [List.cons_append, transcribe_joins number here uncut, unescaped, ih behind, prepend_prepend]
    rfl

/-- A piece of code that is neither a quote nor a backslash does nothing, nor does a slash that
starts no comment. -/
theorem transcribe_code (number : Nat) {lexeme : Lexeme} (proper : lexeme.IsProper)
    (noQuote : lexeme ≠ .quote) (noBackslash : lexeme ≠ .backslash)
    (apart : lexeme = .slash → ∀ c ∈ rest.head?, c ≠ '/' ∧ c ≠ '*') :
    transcribe number .code (lexeme.chars ++ rest) =
      (transcribe number .code rest).prepend (Marking.codeSegment lexeme).glyphs := by
  cases lexeme with
  | quote => exact absurd rfl noQuote
  | backslash => exact absurd rfl noBackslash
  | slash => exact transcribe_slash number (apart rfl)
  | star | openBrace | closeBrace => rfl
  | space run => exact transcribe_run number proper.joins_space (by simp) rfl rest
  | text run => exact transcribe_run number proper.joins_text (by simp) rfl rest

theorem transcribe_string_cons (number : Nat) (noBackslash : c ≠ '\\') (noQuote : c ≠ '"')
    (rest : List Char) :
    transcribe number .string (c :: rest) =
      (transcribe number .string rest).prepend [⟨c, .kept⟩] := by
  simp [transcribe]

/-- A piece of a string that is neither a quote nor a backslash does nothing. -/
theorem transcribe_string (number : Nat) {lexeme : Lexeme} (proper : lexeme.IsProper)
    (noQuote : lexeme ≠ .quote) (noBackslash : lexeme ≠ .backslash) (rest : List Char) :
    transcribe number .string (lexeme.chars ++ rest) =
      (transcribe number .string rest).prepend (Segment.code lexeme.chars).glyphs := by
  cases lexeme with
  | quote => exact absurd rfl noQuote
  | backslash => exact absurd rfl noBackslash
  | slash | star | openBrace | closeBrace =>
    exact transcribe_string_cons number (by simp) (by simp) rest
  | space run => exact transcribe_run number proper.joins_space (by simp) rfl rest
  | text run => exact transcribe_run number proper.joins_text (by simp) rfl rest

theorem transcribe_comment_cons (number openedAt : Nat)
    (apart : c = '*' → ∀ d ∈ rest.head?, d ≠ '/') :
    transcribe number (.comment openedAt) (c :: rest) =
      (transcribe number (.comment openedAt) rest).prepend [⟨c, .comment⟩] := by
  rw [transcribe]
  rintro tail rfl rfl
  exact apart rfl '/' rfl rfl

/-- A piece of a comment does nothing, nor does a star that does not close it. -/
theorem transcribe_comment (number openedAt : Nat) {lexeme : Lexeme} (proper : lexeme.IsProper)
    (apart : lexeme = .star → ∀ c ∈ rest.head?, c ≠ '/') :
    transcribe number (.comment openedAt) (lexeme.chars ++ rest) =
      (transcribe number (.comment openedAt) rest).prepend
        (Segment.comment lexeme.chars).glyphs := by
  cases lexeme with
  | star => exact transcribe_comment_cons number openedAt fun _ => apart rfl
  | quote | backslash | slash | openBrace | closeBrace =>
    exact transcribe_comment_cons number openedAt (by simp)
  | space run => exact transcribe_run number proper.joins_space (by simp) rfl rest
  | text run => exact transcribe_run number proper.joins_text (by simp) rfl rest

theorem transcribe_cut (number : Nat) (line : List Char) :
    transcribe number .cut line = ⟨line.map (⟨·, .cut⟩), .cut⟩ := by
  cases line <;> simp [transcribe]

/-- Behind a backslash the first character of a piece is plain, and the others are anyway. -/
theorem transcribe_escaped (number : Nat) {lexeme : Lexeme} (proper : lexeme.IsProper)
    (kept : phase.inertStanding = .kept) (escapes : phase ≠ phase.unescaped) (rest : List Char) :
    transcribe number phase (lexeme.chars ++ rest) =
      (transcribe number phase.unescaped rest).prepend (lexeme.chars.map (⟨·, .kept⟩)) := by
  obtain ⟨c, run, chars, joins, _⟩ := Lexeme.chars_eq_cons proper
  have first : transcribe number phase (c :: (run ++ rest)) =
      (transcribe number phase.unescaped (run ++ rest)).prepend [⟨c, .kept⟩] := by
    cases phase <;> simp_all [transcribe, Phase.unescaped]
  have uncut : phase.unescaped ≠ .cut := by
    cases phase <;> simp_all [Phase.unescaped]
  have still : phase.unescaped.unescaped = phase.unescaped := by
    cases phase <;> rfl
  have standing : phase.unescaped.inertStanding = .kept := by
    rw [← kept]
    cases phase <;> rfl
  rw [chars, List.cons_append, first, transcribe_run number joins uncut still, standing,
    prepend_prepend]
  rfl

end Transcript

/-- The text is read as the line it comes from, but for the comments taken out of it. -/
structure Marking.Fades (marking : Marking) (after : Bool) (transcript : Transcript) : Prop where
  glyphs : Glyph.Fades marking.glyphs transcript.glyphs
  mode : transcript.phase.mode.afterLine = marking.mode.afterLine.redacted after

namespace Marking

variable {number : Nat} {mode : Mode} {lexemes : List Lexeme} {text : List Char}
variable {marking : Marking} {transcript : Transcript} {segment : Segment}

theorem Fades.cons (fades : marking.Fades after transcript)
    (here : Glyph.Fades segment.glyphs others) :
    (marking.cons segment).Fades after (transcript.prepend others) :=
  ⟨here.append fades.glyphs, fades.mode⟩

/-- In code or in a string, a segment that stays is read as before. -/
theorem Fades.kept (fades : marking.Fades after transcript) (segment : Segment) :
    (marking.cons segment).Fades after (transcript.prepend segment.glyphs) :=
  fades.cons (.refl _)

/-- In code, the first piece stays, unless it may start a comment. -/
theorem read_code_cons (number : Nat) (noSlash : lexeme ≠ .slash) (lexemes : List Lexeme) :
    ∃ segment segments, (read number .code (lexeme :: lexemes)).segments = segment :: segments ∧
      segment.opensComment = false ∧ segment.shown = segment.source ∧
      segment.source = lexeme.chars := by
  cases lexeme with
  | slash => exact absurd rfl noSlash
  | backslash => cases lexemes <;> exact ⟨_, _, rfl, rfl, rfl, rfl⟩
  | _ => exact ⟨_, _, rfl, rfl, rfl, rfl⟩

/-- In code, no half of a comment mark comes to stand in front of the text. -/
theorem head?_redacted (proper : ∀ lexeme ∈ lexemes, lexeme.IsProper)
    (noSlash : ∀ first ∈ lexemes.head?, first ≠ .slash)
    (noStar : ∀ first ∈ lexemes.head?, first ≠ .star)
    (redacted : Segment.Redacted blanked (read number .code lexemes).segments text after) :
    ∀ c ∈ text.head?, c ≠ '/' ∧ c ≠ '*' := by
  cases lexemes with
  | nil =>
    obtain ⟨rfl, rfl⟩ := redacted.nil
    simp
  | cons lexeme lexemes =>
    obtain ⟨segment, segments, split, within, stays, source⟩ :=
      read_code_cons number (by simpa using noSlash) lexemes
    rw [split] at redacted
    obtain ⟨rest, rfl, _⟩ := redacted.kept within stays
    obtain ⟨c, run, chars, _, slash, star⟩ :=
      Lexeme.chars_eq_cons (proper lexeme List.mem_cons_self)
    rw [source, chars]
    simpa using And.intro (slash (by simpa using noSlash)) (star (by simpa using noStar))

/-- In a comment, the first piece is a part of it. -/
theorem read_comment_cons (number openedAt : Nat) (lexeme : Lexeme) (lexemes : List Lexeme) :
    ∃ segment segments, (read number (.blockComment openedAt) (lexeme :: lexemes)).segments =
        segment :: segments ∧
      segment.opensComment = false ∧ ∃ more, segment.source = lexeme.chars ++ more := by
  by_cases star : lexeme = .star
  · subst star
    cases lexemes with
    | nil => exact ⟨_, _, rfl, rfl, [], rfl⟩
    | cons next lexemes => cases next <;> exact ⟨_, _, rfl, rfl, _, rfl⟩
  · rw [read_comment number openedAt star]
    exact ⟨_, _, rfl, rfl, [], (List.append_nil _).symm⟩

/-- In a comment that stays, a star at the end of what stands before does not come to close it. -/
theorem head?_redacted_comment (proper : ∀ lexeme ∈ lexemes, lexeme.IsProper)
    (noSlash : ∀ first ∈ lexemes.head?, first ≠ .slash)
    (redacted : Segment.Redacted false (read number (.blockComment openedAt) lexemes).segments text
      after) : ∀ c ∈ text.head?, c ≠ '/' := by
  cases lexemes with
  | nil =>
    obtain ⟨rfl, rfl⟩ := redacted.nil
    simp
  | cons lexeme lexemes =>
    obtain ⟨segment, segments, split, within, more, source⟩ :=
      read_comment_cons number openedAt lexeme lexemes
    rw [split] at redacted
    obtain ⟨chosen, rest, rfl, _, still⟩ := redacted.cons
    obtain rfl := still within
    obtain ⟨c, run, chars, _, slash, _⟩ := Lexeme.chars_eq_cons (proper lexeme List.mem_cons_self)
    have stays : segment.redact false = segment.source := rfl
    rw [stays, source, chars]
    simpa using slash (by simpa using noSlash)

/-- A part of a block comment that is blanked is read as blanks. -/
theorem Fades.blanked (fades : marking.Fades after (transcribe number .code rest))
    (comment : segment.isBlockComment = true) :
    (marking.cons segment).Fades after (transcribe number .code (segment.shown ++ rest)) := by
  have joins : ∀ c ∈ segment.shown, JoinsRun c := by
    intro c member
    have blank : c = ' ' := by
      cases segment with
      | opener | closer => simpa [Segment.shown] using member
      | comment run => exact (List.mem_map.mp member).choose_spec.2.symm
      | _ => simp [Segment.isBlockComment] at comment
    subst blank
    simp [JoinsRun]
  rw [Transcript.transcribe_run number joins (by simp) rfl]
  exact fades.cons (.of_blockComment comment)

/-- A backslash and the piece behind it are read as before. -/
theorem Fades.backslash {lexeme : Lexeme} (escaping : Phase)
    (fades : marking.Fades after (transcribe number escaping.unescaped text))
    (proper : lexeme.IsProper) (kept : escaping.inertStanding = .kept)
    (escapes : escaping ≠ escaping.unescaped)
    (enters : ∀ rest, transcribe number escaping.unescaped ('\\' :: rest) =
      (transcribe number escaping rest).prepend [⟨'\\', .kept⟩]) :
    ((marking.cons (.code lexeme.chars)).cons (.code ['\\'])).Fades after
      (transcribe number escaping.unescaped ('\\' :: (lexeme.chars ++ text))) := by
  rw [enters, Transcript.transcribe_escaped number proper kept escapes]
  exact (fades.kept (.code lexeme.chars)).kept (.code ['\\'])

/-- A line comment is read as before, or is not there. -/
theorem fades_lineComment {start : Phase} {run : List Char} (after : start.mode.afterLine = .code)
    (cut : transcribe number start run = ⟨run.map (⟨·, .cut⟩), .cut⟩) (chosen : Bool) :
    Fades ⟨[.lineComment run], .lineComment⟩ chosen
      (transcribe number start ((Segment.lineComment run).redact chosen)) := by
  have glyphs : glyphs ⟨[.lineComment run], .lineComment⟩ = run.map (⟨·, .cut⟩) := by
    simp [glyphs, Segment.glyphs, Segment.source, Segment.standing]
  cases chosen with
  | true => exact ⟨.of_cut (by simp [glyphs]), after⟩
  | false =>
    have source : (Segment.lineComment run).redact false = run := rfl
    rw [source, cut]
    exact ⟨by rw [glyphs]; exact .refl _, rfl⟩

theorem opensComment_codeSegment (lexeme : Lexeme) : (codeSegment lexeme).opensComment = false := by
  cases lexeme <;> rfl

theorem shown_codeSegment (lexeme : Lexeme) :
    (codeSegment lexeme).shown = (codeSegment lexeme).source := by
  cases lexeme <;> rfl

theorem fades_nil (number : Nat) (mode : Mode) (blanked : Bool) :
    Fades ⟨[], mode⟩ blanked (transcribe number (.ofMode (mode.redacted blanked)) []) := by
  refine ⟨.done, ?_⟩
  cases mode <;> cases blanked <;> rfl

/-- Taking comments out of a line by hand does not change how the rest of it is read. -/
theorem fades_read (proper : ∀ lexeme ∈ lexemes, lexeme.IsProper)
    (redacted : Segment.Redacted blanked (read number mode lexemes).segments text after) :
    (read number mode lexemes).Fades after
      (transcribe number (.ofMode (mode.redacted blanked)) text) := by
  -- The induction is on the reading of the pieces. A comment opened on the way sets the flag anew,
  -- so the flag is not the same for the pieces behind it.
  fun_induction read number mode lexemes generalizing blanked text with
  | case1 mode =>
    obtain ⟨rfl, rfl⟩ := redacted.nil
    exact fades_nil number mode after
  | case2 rest =>
    obtain ⟨chosen, _, rfl, behind, _⟩ := redacted.cons
    obtain ⟨rfl, rfl⟩ := behind.nil
    rw [List.append_nil]
    exact fades_lineComment rfl rfl after
  | case3 rest ih =>
    obtain ⟨chosen, text, rfl, behind, _⟩ := redacted.cons
    have later := ih (fun lexeme member => proper lexeme (by simp [member])) behind
    cases chosen with
    | true => exact later.blanked rfl
    | false => exact later.kept .opener
  | case4 lexeme rest ih =>
    obtain ⟨_, rfl, inner⟩ := redacted.kept rfl rfl
    obtain ⟨text, rfl, behind⟩ := inner.kept rfl rfl
    have later := ih (fun lexeme member => proper lexeme (by simp [member])) behind
    exact later.backslash .escape (proper lexeme (by simp)) rfl (by simp [Phase.unescaped]) fun _ => rfl
  | case5 rest ih =>
    obtain ⟨text, rfl, behind⟩ := redacted.kept rfl rfl
    exact (ih (fun lexeme member => proper lexeme (by simp [member])) behind).kept (.code ['"'])
  | case6 lexeme rest noLine noBlock noEscape noQuote ih =>
    obtain ⟨text, rfl, behind⟩ := redacted.kept (opensComment_codeSegment lexeme)
      (shown_codeSegment lexeme)
    obtain ⟨here, others⟩ := List.forall_mem_cons.mp proper
    by_cases last : lexeme = .backslash
    · subst last
      cases rest with
      | nil =>
        obtain ⟨rfl, rfl⟩ := behind.nil
        exact ⟨.same _ .done, rfl⟩
      | cons next rest => exact absurd rfl (noEscape next rest rfl)
    · have step := Transcript.transcribe_code number here noQuote last fun slash =>
        head?_redacted others (head?_ne fun tail => noLine tail slash)
          (head?_ne fun tail => noBlock tail slash) behind
      rw [← source_codeSegment] at step
      exact step ▸ (ih others behind).kept _
  | case7 lexeme rest ih =>
    obtain ⟨_, rfl, inner⟩ := redacted.kept rfl rfl
    obtain ⟨text, rfl, behind⟩ := inner.kept rfl rfl
    have later := ih (fun lexeme member => proper lexeme (by simp [member])) behind
    exact later.backslash .stringEscape (proper lexeme (by simp)) rfl (by simp [Phase.unescaped]) fun _ => rfl
  | case8 rest ih =>
    obtain ⟨text, rfl, behind⟩ := redacted.kept rfl rfl
    exact (ih (fun lexeme member => proper lexeme (by simp [member])) behind).kept (.code ['"'])
  | case9 lexeme rest noEscape noQuote ih =>
    obtain ⟨text, rfl, behind⟩ := redacted.kept rfl rfl
    obtain ⟨here, others⟩ := List.forall_mem_cons.mp proper
    by_cases last : lexeme = .backslash
    · subst last
      cases rest with
      | nil =>
        obtain ⟨rfl, rfl⟩ := behind.nil
        exact ⟨.same _ .done, rfl⟩
      | cons next rest => exact absurd rfl (noEscape next rest rfl)
    · have step := Transcript.transcribe_string number here noQuote last text
      exact step ▸ (ih others behind).kept _
  | case10 openedAt rest ih =>
    obtain ⟨chosen, text, rfl, behind, still⟩ := redacted.cons
    obtain rfl := still rfl
    have later := ih (fun lexeme member => proper lexeme (by simp [member])) behind
    cases chosen with
    | true => exact later.blanked rfl
    | false => exact later.kept .closer
  | case11 openedAt lexeme rest noClose ih =>
    obtain ⟨chosen, text, rfl, behind, still⟩ := redacted.cons
    obtain rfl := still rfl
    obtain ⟨here, others⟩ := List.forall_mem_cons.mp proper
    have later := ih others behind
    cases chosen with
    | true => exact later.blanked rfl
    | false =>
      have step := Transcript.transcribe_comment number openedAt here fun star =>
        head?_redacted_comment others (head?_ne fun tail => noClose tail star) behind
      exact step ▸ later.kept (.comment lexeme.chars)
  | case12 lexemes =>
    obtain ⟨chosen, _, rfl, behind, _⟩ := redacted.cons
    obtain ⟨rfl, rfl⟩ := behind.nil
    rw [List.append_nil]
    exact fades_lineComment rfl (Transcript.transcribe_cut number _) after

/-- The line with comments taken out shows the same, has the same brackets and ends alike. -/
theorem read_redacted {line edited : List Char}
    (redacted : Segment.Redacted blanked (read number mode (Lexeme.ofLine line)).segments edited
      after) :
    let first := read number mode (Lexeme.ofLine line)
    let second := read number (mode.redacted blanked) (Lexeme.ofLine edited)
    Glyph.Fades first.glyphs second.glyphs ∧ second.padded = first.padded ∧
      second.segments.filterMap Segment.bracket? = first.segments.filterMap Segment.bracket? ∧
      second.mode.afterLine = first.mode.afterLine.redacted after := by
  intro first second
  have fades := fades_read (Lexeme.isProper_ofLine line) redacted
  obtain ⟨glyphs, mode⟩ := agrees_read number (mode.redacted blanked) edited
  have fade : Glyph.Fades first.glyphs second.glyphs := glyphs ▸ fades.glyphs
  refine ⟨fade, ?_, ?_, ?_⟩
  · rw [padded, padded, ← shown_glyphs, ← shown_glyphs]
    exact fade.shown
  · rw [← brackets_glyphs, ← brackets_glyphs]
    exact fade.brackets
  · rw [mode]
    exact fades.mode

end Marking

end Offside
