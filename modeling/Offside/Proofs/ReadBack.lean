import Offside.Proofs.Rereading

/-! The output of a run, read as code again. It reads back, each brace behind a line a bracket, just
when no brace was put behind a backslash that takes it along (`readsBack_processLines_iff`). -/

namespace Offside

/-- The character counts as a bracket, if it is a brace. -/
def Glyph.IsLive (glyph : Glyph) : Prop :=
  (glyph.char = '{' → glyph.standing = .opening) ∧ (glyph.char = '}' → glyph.standing = .closing)

/-- The output, read as a text of its own, is accepted, every line of it ends in code, the braces
behind the given texts are brackets, and none is open at the end. -/
def ReadsBack (tail : CommentTail) (texts outputs : List String) : Prop :=
  ∃ readings carry, ({} : Carry).readLines tail 1 outputs = .ok (readings, carry) ∧
    (∀ reading ∈ readings, reading.after.mode = .code) ∧
    (∀ row ∈ texts.zip readings,
      ∀ glyph ∈ row.2.marking.glyphs.drop row.1.toList.length, glyph.IsLive) ∧
    carry.nesting.depth = 0

/-- A brace stands behind a line that ends in an odd number of backslashes. -/
def Reading.Escapes (reading : Reading) (output : String) : Prop :=
  endsInEscape reading.stripped.text.toList = true ∧
    ∃ c ∈ reading.appended output, c = '{' ∨ c = '}'

namespace IsDelimiter

variable {delimiter : String}

theorem marks (isDelimiter : IsDelimiter delimiter) :
    ∀ c ∈ delimiter.toList, c = ';' ∨ c = '{' ∨ c = '}' := by
  intro c member
  cases isDelimiter with
  | none => simp at member
  | shift shift =>
    cases shift with
    | dedent count =>
      rw [Shift.delimiter, String.toList_append, String.toList_ofList] at member
      rcases List.mem_append.mp member with closing | last
      · exact .inr (.inr (List.mem_replicate.mp closing).2)
      · exact .inl (by simpa using last)
    | _ => simp_all [Shift.delimiter]
  | closing levels =>
    rw [closers, String.toList_ofList] at member
    exact .inr (.inr (List.mem_replicate.mp member).2)

/-- With a brace in it, a delimiter starts with one. -/
theorem head_of_brace (isDelimiter : IsDelimiter delimiter)
    (brace : ∃ c ∈ delimiter.toList, c = '{' ∨ c = '}') :
    ∃ c rest, delimiter.toList = c :: rest ∧ (c = '{' ∨ c = '}') := by
  cases isDelimiter with
  | none => simp at brace
  | shift shift =>
    cases shift with
    | baseline => simp [Shift.delimiter] at brace
    | same => simp [Shift.delimiter] at brace
    | indent => exact ⟨'{', [], rfl, .inl rfl⟩
    | dedent count =>
      cases count with
      | zero => simp [Shift.delimiter] at brace
      | succ count =>
        refine ⟨'}', List.replicate count '}' ++ [';'], ?_, .inr rfl⟩
        simp [Shift.delimiter, List.replicate_succ]
  | closing levels =>
    cases levels with
    | zero => simp [closers] at brace
    | succ levels =>
      refine ⟨'}', List.replicate levels '}', ?_, .inr rfl⟩
      simp [closers, List.replicate_succ]

theorem apart (isDelimiter : IsDelimiter delimiter) :
    ∀ c ∈ delimiter.toList.head?, c ≠ '/' ∧ c ≠ '*' := by
  intro c first
  rcases isDelimiter.marks c (List.mem_of_mem_head? first) with rfl | rfl | rfl <;> decide

end IsDelimiter

/-- The marks that were read are code, and each brace of them is a bracket. -/
structure Transcript.IsLive (transcript : Transcript) (marks : List Char) : Prop where
  mode : transcript.phase.mode = .code
  live : ∀ glyph ∈ transcript.glyphs, glyph.IsLive
  brackets : transcript.glyphs.filterMap Glyph.bracket? =
    (insertedBrackets marks).map Bracket.opens

theorem Transcript.isLive_nil {phase : Phase} (mode : phase.mode = .code) :
    IsLive ⟨[], phase⟩ [] :=
  ⟨mode, by simp, rfl⟩

theorem Transcript.IsLive.prepend {transcript : Transcript} (isLive : transcript.IsLive marks)
    (glyph : Glyph) (live : glyph.IsLive)
    (bracket : glyph.bracket? = (insertedBracket? c).map Bracket.opens) :
    (transcript.prepend [glyph]).IsLive (c :: marks) := by
  refine ⟨isLive.mode, ?_, ?_⟩
  · intro other member
    rcases List.mem_cons.mp member with rfl | later
    · exact live
    · exact isLive.live other later
  · have rest := isLive.brackets
    unfold insertedBrackets at rest ⊢
    cases inserted : insertedBracket? c <;>
      simp_all [Transcript.prepend]

/-- Delimiters in code are what they were put there for. -/
theorem isLive_transcribe (number : Nat) {marks : List Char}
    (all : ∀ c ∈ marks, c = ';' ∨ c = '{' ∨ c = '}') :
    (transcribe number .code marks).IsLive marks := by
  induction marks with
  | nil => exact Transcript.isLive_nil rfl
  | cons c marks ih =>
    have rest := ih fun c member => all c (List.mem_cons_of_mem _ member)
    rcases all c List.mem_cons_self with rfl | rfl | rfl
    · exact rest.prepend ⟨';', .kept⟩ (by simp [Glyph.IsLive]) rfl
    · exact rest.prepend ⟨'{', .opening⟩ (by simp [Glyph.IsLive]) rfl
    · exact rest.prepend ⟨'}', .closing⟩ (by simp [Glyph.IsLive]) rfl

/-- A delimiter without a brace may be escaped. -/
theorem isLive_delimiter (number : Nat) (isDelimiter : IsDelimiter delimiter) (text : List Char)
    (harmless : endsInEscape text = true → ∀ c ∈ delimiter.toList, ¬(c = '{' ∨ c = '}')) :
    (transcribe number (phaseBehind text) delimiter.toList).IsLive delimiter.toList := by
  have marks := isDelimiter.marks
  generalize delimiter.toList = chars at *
  unfold phaseBehind
  cases escaped : endsInEscape text with
  | false => exact isLive_transcribe number marks
  | true =>
    cases chars with
    | nil => exact Transcript.isLive_nil rfl
    | cons c chars =>
      have rest := isLive_transcribe number fun c member => marks c (List.mem_cons_of_mem _ member)
      have noBrace := harmless escaped c List.mem_cons_self
      obtain rfl : c = ';' := (marks c List.mem_cons_self).resolve_right noBrace
      exact rest.prepend ⟨';', .kept⟩ (by simp [Glyph.IsLive]) rfl

namespace Carry

variable {tail : CommentTail} {reading again : Reading} {output : String}

/-- A line is accepted when its brackets can be closed and it does not end in a string. -/
theorem readLine_of_follow {nesting : Nesting} (carry : Carry) (tail : CommentTail) (number : Nat)
    (line : String)
    (followed : Segment.follow carry.nesting
      (Marking.read number carry.mode (Lexeme.ofLine line.toList)).segments = .ok nesting)
    (closed : (Marking.read number carry.mode (Lexeme.ofLine line.toList)).mode ≠ .string) :
    ∃ stripped, carry.readLine tail number line =
      .ok ⟨stripped, Marking.read number carry.mode (Lexeme.ofLine line.toList),
        (Marking.read number carry.mode (Lexeme.ofLine line.toList)).mode.afterLine, nesting⟩ := by
  unfold readLine strip
  simp only [followed]
  cases mode : (Marking.read number carry.mode (Lexeme.ofLine line.toList)).mode with
  | string => exact absurd mode closed
  | _ => exact ⟨_, rfl⟩

/-- A stack of brackets is as deep as the nesting that counts them. -/
theorem follow_segments {word : List Bracket} {stack final : List Origin} {segments : List Segment}
    (followed : Bracket.follow stack word = some final)
    (same : segments.filterMap Segment.bracket? = word.map Bracket.opens) :
    Segment.follow ⟨stack.length⟩ segments = .ok ⟨final.length⟩ := by
  induction segments generalizing word stack with
  | nil =>
    obtain rfl : word = [] := by simpa using same.symm
    obtain rfl : stack = final := by simpa [Bracket.follow] using followed
    rfl
  | cons segment segments ih =>
    cases segment with
    | openBrace =>
      obtain ⟨⟨origin, opens⟩, word, rfl, rfl, later⟩ := List.map_eq_cons_iff.mp same.symm
      have rest : Bracket.follow (origin :: stack) word = some final := followed
      exact ih rest later.symm
    | closeBrace =>
      obtain ⟨⟨origin, opens⟩, word, rfl, rfl, later⟩ := List.map_eq_cons_iff.mp same.symm
      cases stack with
      | nil => simp [Bracket.follow] at followed
      | cons top stack =>
        have rest : Bracket.follow stack word = some final := by
          simp only [Bracket.follow] at followed
          split at followed
          · exact followed
          · simp at followed
        exact ih rest later.symm
    | _ => exact ih followed same

/-- A line of the output is read like the line it comes from, and then its delimiter. -/
theorem read_delivered (number : Nat) (settles : reading.Settles)
    (isDelimiter : IsDelimiter delimiter) :
    ∃ front : List Glyph, front.length = reading.stripped.text.toList.length ∧
      front.filterMap Glyph.bracket? = reading.marking.segments.filterMap Segment.bracket? ∧
      (Marking.read number .code
          (Lexeme.ofLine (reading.stripped.text ++ delimiter).toList)).Agrees
        ((transcribe number (phaseBehind reading.stripped.text.toList) delimiter.toList).prepend
          front) := by
  obtain ⟨front, length, brackets, reread⟩ := settles
  refine ⟨front, length, brackets, ?_⟩
  rw [← reread number delimiter.toList isDelimiter.apart, ← String.toList_append]
  exact Marking.agrees_read number .code _

/-- A line of the output is read back, unless a brace behind it is escaped. -/
theorem readLine_delivered {stack next : List Origin} (tail : CommentTail) (number : Nat)
    (settles : reading.Settles) (delivers : Delivers reading output)
    (harmless : ¬reading.Escapes output)
    (followed : Bracket.follow stack (reading.brackets output) = some next) :
    ∃ again, Carry.readLine tail number output ⟨.code, ⟨stack.length⟩⟩ = .ok again ∧
      again.after = ⟨.code, ⟨next.length⟩⟩ ∧
      ∀ glyph ∈ again.marking.glyphs.drop reading.stripped.text.toList.length, glyph.IsLive := by
  obtain ⟨delimiter, isDelimiter, rfl⟩ := delivers
  rw [Reading.Escapes, Reading.appended_append] at harmless
  rw [Reading.brackets, Reading.appended_append] at followed
  have isLive := isLive_delimiter number isDelimiter reading.stripped.text.toList
    fun escaped c member brace => harmless ⟨escaped, c, member, brace⟩
  obtain ⟨front, length, brackets, glyphs, mode⟩ := read_delivered number settles isDelimiter
  have code := mode.trans isLive.mode
  have same : (Marking.read number .code
      (Lexeme.ofLine (reading.stripped.text ++ delimiter).toList)).segments.filterMap
        Segment.bracket? =
      (reading.marking.writtenBrackets ++ insertedBrackets delimiter.toList).map Bracket.opens := by
    rw [← Marking.brackets_glyphs, ← Marking.glyphs, glyphs]
    have written : reading.marking.writtenBrackets.map Bracket.opens =
        reading.marking.segments.filterMap Segment.bracket? := by
      rw [Marking.writtenBrackets, List.map_map]
      exact List.map_id _
    rw [Transcript.prepend, List.filterMap_append, brackets, isLive.brackets, List.map_append,
      written]
  obtain ⟨stripped, read⟩ := readLine_of_follow ⟨.code, ⟨stack.length⟩⟩ tail number
    (reading.stripped.text ++ delimiter) (follow_segments followed same) (by rw [code]; simp)
  refine ⟨_, read, ?_, ?_⟩
  · rw [code]
    rfl
  · rw [glyphs, Transcript.prepend, ← length, List.drop_left]
    exact isLive.live

/-- A line that is read back has no brace escaped behind it. -/
theorem not_escapes_of_isLive (number : Nat) (settles : reading.Settles)
    (delivers : Delivers reading output)
    (live : ∀ glyph ∈ (Marking.read number .code (Lexeme.ofLine output.toList)).glyphs.drop
      reading.stripped.text.toList.length, glyph.IsLive) :
    ¬reading.Escapes output := by
  obtain ⟨delimiter, isDelimiter, rfl⟩ := delivers
  rw [Reading.Escapes, Reading.appended_append]
  rintro ⟨escaped, brace⟩
  obtain ⟨c, rest, starts, brace⟩ := isDelimiter.head_of_brace brace
  obtain ⟨front, length, _, glyphs, _⟩ := read_delivered number settles isDelimiter
  rw [glyphs, Transcript.prepend, ← length, List.drop_left, phaseBehind, escaped, starts] at live
  have kept := live ⟨c, .kept⟩ (by simp [transcribe, Transcript.prepend])
  rcases brace with rfl | rfl
  · exact absurd (kept.1 rfl) (by simp)
  · exact absurd (kept.2 rfl) (by simp)

/-- The output is read back line by line, when no brace is escaped. -/
theorem readLines_delivered {readings : List Reading} {outputs : List String}
    {stack final : List Origin} (tail : CommentTail) (number : Nat)
    (same : readings.length = outputs.length) (settles : ∀ reading ∈ readings, reading.Settles)
    (delivers : ∀ row ∈ readings.zip outputs, Delivers row.1 row.2)
    (harmless : ∀ row ∈ readings.zip outputs, ¬row.1.Escapes row.2)
    (followed : Bracket.follow stack (bracketWord readings outputs) = some final) :
    ∃ again, Carry.readLines tail ⟨.code, ⟨stack.length⟩⟩ number outputs =
        .ok (again, ⟨.code, ⟨final.length⟩⟩) ∧
      (∀ reading ∈ again, reading.after.mode = .code) ∧
      ∀ row ∈ (readings.map (·.stripped.text)).zip again,
        ∀ glyph ∈ row.2.marking.glyphs.drop row.1.toList.length, glyph.IsLive := by
  induction readings generalizing outputs stack number with
  | nil =>
    obtain rfl : outputs = [] := by simpa using same.symm
    obtain rfl : stack = final := by simpa [bracketWord, Bracket.follow] using followed
    exact ⟨[], rfl, by simp, by simp⟩
  | cons reading readings ih =>
    cases outputs with
    | nil => simp at same
    | cons output outputs =>
      rw [bracketWord_cons, Bracket.follow_append] at followed
      obtain ⟨next, here, rest⟩ := Option.bind_eq_some_iff.mp followed
      obtain ⟨again, read, after, live⟩ := readLine_delivered tail number
        (settles reading List.mem_cons_self) (delivers (reading, output) List.mem_cons_self)
        (harmless (reading, output) List.mem_cons_self) here
      obtain ⟨more, readMore, codeMore, liveMore⟩ := ih (number + 1) (by simpa using same)
        (fun reading member => settles reading (List.mem_cons_of_mem _ member))
        (fun row member => delivers row (List.mem_cons_of_mem _ member))
        (fun row member => harmless row (List.mem_cons_of_mem _ member)) rest
      refine ⟨again :: more, readLines_of_cons read (by rwa [after]), ?_, ?_⟩
      · intro other member
        rcases List.mem_cons.mp member with rfl | later
        · rw [after]
        · exact codeMore other later
      · intro row member
        rcases List.mem_cons.mp member with rfl | later
        · exact live
        · exact liveMore row later

/-- Where the output is read back, no brace is escaped. -/
theorem not_escapes_of_readLines {readings again : List Reading} {outputs : List String}
    {carry final : Carry} (settles : ∀ reading ∈ readings, reading.Settles)
    (delivers : ∀ row ∈ readings.zip outputs, Delivers row.1 row.2) (code : carry.mode = .code)
    (read : carry.readLines tail number outputs = .ok (again, final))
    (codes : ∀ reading ∈ again, reading.after.mode = .code)
    (live : ∀ row ∈ (readings.map (·.stripped.text)).zip again,
      ∀ glyph ∈ row.2.marking.glyphs.drop row.1.toList.length, glyph.IsLive) :
    ∀ row ∈ readings.zip outputs, ¬row.1.Escapes row.2 := by
  induction readings generalizing outputs again carry number with
  | nil => simp
  | cons reading readings ih =>
    cases outputs with
    | nil => simp
    | cons output outputs =>
      obtain ⟨first, more, readFirst, readMore, rfl⟩ := readLines_cons read
      obtain ⟨marking, _⟩ := readLine_ok readFirst
      intro row member
      rcases List.mem_cons.mp member with rfl | later
      · apply not_escapes_of_isLive number (settles reading List.mem_cons_self)
          (delivers (reading, output) List.mem_cons_self)
        rw [← code, ← marking]
        exact live (reading.stripped.text, first) List.mem_cons_self
      · exact ih (fun reading member => settles reading (List.mem_cons_of_mem _ member))
          (fun row member => delivers row (List.mem_cons_of_mem _ member))
          (codes first List.mem_cons_self) readMore
          (fun reading member => codes reading (List.mem_cons_of_mem _ member))
          (fun row member => live row (List.mem_cons_of_mem _ member)) row later

/-- Accepted lines can be read a second time. -/
theorem settles_of_readLines {readings : List Reading} {lines : List String} {carry final : Carry}
    (outside : carry.mode ≠ .string)
    (read : carry.readLines tail number lines = .ok (readings, final)) :
    ∀ reading ∈ readings, reading.Settles := by
  induction lines generalizing readings carry number with
  | nil => simp_all [readLines]
  | cons line lines ih =>
    obtain ⟨first, more, readFirst, readMore, rfl⟩ := readLines_cons read
    obtain ⟨_, _, closed, after, _⟩ := readLine_ok readFirst
    have outsideMore : first.after.mode ≠ .string := by
      rw [after]
      cases mode : first.marking.mode with
      | string => exact absurd mode closed
      | _ => simp [Mode.afterLine]
    intro reading member
    rcases List.mem_cons.mp member with rfl | later
    · exact settles_of_readLine readFirst outside
    · exact ih outsideMore readMore reading later

end Carry

/-- When the code closes all of its brackets, the output reads back just when no brace was put
behind a line that ends in an odd number of backslashes. -/
theorem readsBack_processLines_iff (options : Options) (lines : List String)
    (passed : (processLines options lines).fault? = none)
    (closed : (({} : Tracker).readAll options lines).carry.nesting.depth = 0) :
    ∃ readings carry,
      ({} : Carry).readLines options.tail 1 lines = .ok (readings, carry) ∧
      ∀ tail, ReadsBack tail (readings.map (·.stripped.text)) (processLines options lines).lines ↔
        ∀ row ∈ readings.zip (processLines options lines).lines, ¬row.1.Escapes row.2 := by
  obtain ⟨readings, carry, read, length, delivers, followed⟩ := follow_processLines passed closed
  have settles := Carry.settles_of_readLines (by simp) read
  refine ⟨readings, carry, read, fun tail => ⟨?_, ?_⟩⟩
  · rintro ⟨again, final, readAgain, codes, live, _⟩
    exact Carry.not_escapes_of_readLines settles delivers rfl readAgain codes live
  · intro harmless
    obtain ⟨again, readAgain, codes, live⟩ :=
      Carry.readLines_delivered tail 1 length settles delivers harmless followed
    exact ⟨again, _, readAgain, codes, live, rfl⟩

/-- A backslash at the end of a line takes the brace behind it along. -/
theorem not_readsBack_backslash :
    (processLines {} ["a\\", "  b"]).fault? = none ∧
    (({} : Tracker).readAll {} ["a\\", "  b"]).carry.nesting.depth = 0 ∧
    (∃ readings carry, ({} : Carry).readLines .trim 1 ["a\\", "  b"] = .ok (readings, carry) ∧
      readings.map (·.stripped.text) = ["a\\", "  b"]) ∧
    (processLines {} ["a\\", "  b"]).lines = ["a\\\x7b", "  b\x7d"] ∧
    ∀ tail, ¬ReadsBack tail ["a\\", "  b"] ["a\\\x7b", "  b\x7d"] := by
  refine ⟨by decide +kernel, by decide +kernel, ⟨_, _, rfl, by decide +kernel⟩, by decide +kernel, ?_⟩
  rintro tail ⟨readings, carry, read, _⟩
  have rejected : ({} : Carry).readLines tail 1 ["a\\\x7b", "  b\x7d"] =
      .error ⟨2, .unmatchedClose⟩ := by
    cases tail <;> rfl
  rw [rejected] at read
  simp at read

theorem readsBack_processLines_iff_backslashes :
    (processLines {} ["a\\", "b\\\\", "  c"]).fault? = none ∧
    (({} : Tracker).readAll {} ["a\\", "b\\\\", "  c"]).carry.nesting.depth = 0 ∧
    ∃ readings carry,
      ({} : Carry).readLines .trim 1 ["a\\", "b\\\\", "  c"] = .ok (readings, carry) ∧
      ∀ tail, ReadsBack tail (readings.map (·.stripped.text)) ["a\\;", "b\\\\\x7b", "  c\x7d"] ↔
        ∀ row ∈ readings.zip ["a\\;", "b\\\\\x7b", "  c\x7d"], ¬row.1.Escapes row.2 :=
  have passed : (processLines {} ["a\\", "b\\\\", "  c"]).fault? = none := by decide +kernel
  have closed : (({} : Tracker).readAll {} ["a\\", "b\\\\", "  c"]).carry.nesting.depth = 0 := by
    decide +kernel
  have output : (processLines {} ["a\\", "b\\\\", "  c"]).lines =
      ["a\\;", "b\\\\\x7b", "  c\x7d"] := by
    decide +kernel
  ⟨passed, closed, output ▸ readsBack_processLines_iff {} _ passed closed⟩

end Offside
