import Offside.Proofs.Endings
import Offside.Proofs.ReadBack

/-! The lines of a text and those of the output. A character of the output stands in the source, or
it is a blank where a comment was, or it belongs to a delimiter (`processLines_within`). So no line
feed gets into a line, and a run that prints its lines as they are prints a text of the same shape
(`Cli.stdout_text`). -/

namespace Offside

/-- Each character of the line is allowed. -/
def Within (allowed : Char → Prop) (line : String) : Prop :=
  ∀ c ∈ line.toList, allowed c

/-- The characters that a run can put into a line are allowed. -/
structure Supplies (allowed : Char → Prop) : Prop where
  blank : allowed ' '
  same : allowed ';'
  opening : allowed '{'
  closing : allowed '}'

variable {allowed : Char → Prop}

section Source

theorem Segment.mem_shown {segment : Segment} (member : c ∈ segment.shown) :
    c ∈ segment.source ∨ c = ' ' := by
  cases segment <;> simp_all [shown, source]

theorem Marking.mem_shown {marking : Marking} (member : c ∈ marking.shown tail carried) :
    c ∈ marking.segments.flatMap Segment.source ∨ c = ' ' := by
  rcases marking.shown_cases tail carried with ⟨empty, _⟩ | ⟨front, back, split, _, same⟩
  · simp [empty] at member
  · rw [same] at member
    obtain ⟨segment, among, part⟩ := List.mem_flatMap.mp member
    refine (Segment.mem_shown part).imp_left fun source => ?_
    exact List.mem_flatMap.mpr ⟨segment, by simp [split, among], source⟩

/-- What remains of a line is made of its characters and blanks. -/
theorem Carry.within_readLine {carry : Carry} {reading : Reading} (supplies : Supplies allowed)
    (read : carry.readLine tail number line = .ok reading) (within : Within allowed line) :
    Within allowed reading.stripped.text := by
  intro c member
  obtain ⟨marking, _, _, _, stripped⟩ := readLine_ok read
  rw [stripped, String.toList_ofList] at member
  rcases Marking.mem_shown member with source | rfl
  · rw [marking, Marking.source_read, Lexeme.chars_ofLine] at source
    exact within c source
  · exact supplies.blank

theorem IsDelimiter.within (isDelimiter : IsDelimiter delimiter) (supplies : Supplies allowed) :
    Within allowed delimiter := by
  intro c member
  rcases isDelimiter.marks c member with rfl | rfl | rfl
  · exact supplies.same
  · exact supplies.opening
  · exact supplies.closing

theorem Within.append (first : Within allowed line) (second : Within allowed delimiter) :
    Within allowed (line ++ delimiter) := by
  intro c member
  rw [String.toList_append] at member
  exact (List.mem_append.mp member).elim (first c) (second c)

end Source

namespace Holdback

/-- Each line that has been read and not been handed out is made of allowed characters. -/
def Holds (allowed : Char → Prop) (holdback : Holdback) : Prop :=
  ∀ line ∈ holdback.ready ++ holdback.heldLines "", Within allowed line

variable {holdback : Holdback}

theorem Holds.ready (holds : holdback.Holds allowed) :
    ∀ line ∈ holdback.ready, Within allowed line :=
  fun line member => holds line (List.mem_append_left _ member)

theorem Holds.release (holds : holdback.Holds allowed) (within : Within allowed delimiter) :
    ∀ line ∈ (holdback.release delimiter).ready, Within allowed line := by
  intro line member
  rw [ready_release] at member
  rcases List.mem_append.mp member with early | late
  · exact holds.ready line early
  · cases held : holdback.held with
    | none => simp [heldLines, held] at late
    | some waiting =>
      have parts : ∀ line ∈ waiting.lines "", Within allowed line := fun line among =>
        holds line (List.mem_append_right _ (by simpa [heldLines, held] using among))
      simp only [heldLines, held, HeldLine.lines, List.mem_cons] at late
      rcases late with rfl | blank
      · have text := parts _ List.mem_cons_self
        rw [String.append_empty] at text
        exact text.append within
      · exact parts line (List.mem_cons_of_mem _ blank)

theorem Holds.hold (ready : ∀ line ∈ holdback.ready, Within allowed line)
    (within : Within allowed text) : (holdback.hold text).Holds allowed := by
  intro line member
  rcases List.mem_append.mp member with early | late
  · exact ready line early
  · simp only [Holdback.hold, heldLines, HeldLine.lines, String.append_empty,
      List.mem_singleton] at late
    exact late ▸ within

theorem Holds.accept {event : Event} (holds : holdback.Holds allowed)
    (supplies : Supplies allowed) (within : Within allowed event.text) :
    (holdback.accept event).Holds allowed := by
  cases event with
  | blank text =>
    intro line member
    have among : line ∈ holdback.ready ++ holdback.heldLines "" ∨ line = text := by
      cases held : holdback.held <;>
        simp only [Holdback.accept, held, heldLines, HeldLine.lines, List.mem_append, List.mem_cons,
          List.not_mem_nil, or_false] at member ⊢ <;> tauto
    rcases among with earlier | rfl
    · exact holds line earlier
    · exact within
  | nested text => exact .hold (holds.release (IsDelimiter.none.within supplies)) within
  | content text shift =>
    exact .hold (holds.release ((IsDelimiter.shift shift).within supplies)) within

end Holdback

/-- Whatever a run foresees is made of allowed characters, when its lines are. -/
theorem Session.within_foresee {options : Options} {tracker : Tracker} {holdback : Holdback}
    {lines : List String} (supplies : Supplies allowed) (holds : holdback.Holds allowed)
    (source : ∀ line ∈ lines, Within allowed line) :
    ∀ line ∈ (foresee options tracker holdback lines).lines, Within allowed line := by
  induction lines generalizing tracker holdback with
  | nil =>
    unfold foresee
    split
    · exact holds.release ((IsDelimiter.closing _).within supplies)
    · exact holds.ready
  | cons first lines ih =>
    unfold foresee
    split
    · rename_i event next stepped
      obtain ⟨reading, read, _, _, role⟩ := Tracker.reading_of_step stepped
      have within : Within allowed event.text := by
        rw [role.text_eq]
        exact Carry.within_readLine supplies read (source first List.mem_cons_self)
      exact ih (holds.accept supplies within) fun line member =>
        source line (List.mem_cons_of_mem _ member)
    · exact holds.ready

/-- A character of the output stands in the source, or fills the place of a comment, or belongs to a
delimiter. -/
theorem processLines_within (options : Options) {lines : List String} (supplies : Supplies allowed)
    (source : ∀ line ∈ lines, Within allowed line) :
    ∀ line ∈ (processLines options lines).lines, Within allowed line := by
  rw [processLines_eq_foresee]
  exact Session.within_foresee supplies (by simp [Holdback.Holds, Holdback.heldLines]) source

section Splitting

/-- The cut at line feeds is the usual one. -/
theorem cutAtLineFeeds_eq_splitOn (chars : List Char) :
    (cutAtLineFeeds chars).1 :: (cutAtLineFeeds chars).2 = chars.splitOn '\n' := by
  induction chars with
  | nil => rfl
  | cons c chars ih =>
    rw [List.splitOn, List.splitOnP_cons_eq_if_modifyHead, ← List.splitOn, ← ih]
    by_cases feed : c = '\n' <;> simp [cutAtLineFeeds, feed]

theorem length_splitOn (chars : List Char) :
    (chars.splitOn '\n').length = chars.count '\n' + 1 := by
  induction chars with
  | nil => rfl
  | cons c chars ih =>
    rw [List.splitOn, List.splitOnP_cons_eq_if_modifyHead, ← List.splitOn]
    by_cases feed : c = '\n' <;> simp [feed, ih]

/-- No piece holds a line feed. -/
theorem not_mem_splitOn (chars : List Char) : ∀ piece ∈ chars.splitOn '\n', '\n' ∉ piece := by
  induction chars with
  | nil => simp
  | cons c chars ih =>
    rw [List.splitOn, List.splitOnP_cons_eq_if_modifyHead, ← List.splitOn]
    by_cases feed : c = '\n'
    · simpa [feed] using ih
    · cases pieces : chars.splitOn '\n' with
      | nil => simp [feed]
      | cons piece pieces =>
        rw [pieces] at ih
        simpa [feed, Ne.symm feed] using ih

theorem splitLines_eq (text : String) : splitLines text =
    (text.toList.splitOn '\n').map fun piece => String.ofList (dropCarriageReturn piece) := by
  rw [← cutAtLineFeeds_eq_splitOn, splitLines]

theorem mem_of_mem_dropCarriageReturn (member : c ∈ dropCarriageReturn piece) : c ∈ piece := by
  unfold dropCarriageReturn at member
  split at member
  · exact List.dropLast_subset piece member
  · exact member

/-- There is one line more than there are line feeds. -/
theorem length_splitLines (text : String) :
    (splitLines text).length = text.toList.count '\n' + 1 := by
  rw [splitLines_eq, List.length_map, length_splitOn]

theorem within_splitLines (text : String) : ∀ line ∈ splitLines text, Within (· ≠ '\n') line := by
  intro line member c among
  rw [splitLines_eq] at member
  obtain ⟨piece, found, rfl⟩ := List.mem_map.mp member
  rw [String.toList_ofList] at among
  rintro rfl
  exact not_mem_splitOn _ piece found (mem_of_mem_dropCarriageReturn among)

/-- Behind a line feed at the end of a text there is an empty line. -/
theorem splitLines_of_getLast? {text : String} (ends : text.toList.getLast? = some '\n') :
    ∃ lines, lines ≠ [] ∧ splitLines text = lines ++ [""] := by
  obtain ⟨front, split⟩ := List.getLast?_eq_some_iff.mp ends
  have pieces : text.toList.splitOn '\n' = front.splitOn '\n' ++ [[]] := by
    rw [split, List.splitOn, List.splitOnP_append_cons _ _ (by simp)]
    rfl
  rw [splitLines_eq, pieces, List.map_append]
  exact ⟨_, by simp [List.splitOn_ne_nil], rfl⟩

theorem getLast?_joinLines_concat {lines : List String} (some : lines ≠ []) :
    (joinLines (lines ++ [""])).toList.getLast? = .some '\n' := by
  cases lines with
  | nil => exact absurd rfl some
  | cons line lines =>
    rw [List.cons_append, joinLines_cons, fedLines, List.map_append, String.toList_append,
      String.toList_join]
    simp

/-- Lines without line feeds are found again between the line feeds that join them. -/
theorem splitOn_joinLines {lines : List String} (some : lines ≠ [])
    (within : ∀ line ∈ lines, Within (· ≠ '\n') line) :
    (joinLines lines).toList.splitOn '\n' = lines.map String.toList := by
  have join : (joinLines lines).toList = ['\n'].intercalate (lines.map String.toList) :=
    String.toList_intercalate
  rw [join, List.splitOn_intercalate _ _ (by simpa using some)]
  intro chars member feed
  obtain ⟨line, among, rfl⟩ := List.mem_map.mp member
  exact within line among '\n' feed rfl

end Splitting

namespace Tracker

variable {options : Options} {tracker next final : Tracker} {lines : List String}
variable {events : List Event}

/-- Nothing remains of a line where there was nothing. -/
theorem event_of_step_empty (passed : tracker.step options number "" = (.ok event, next)) :
    event = .blank "" := by
  obtain ⟨reading, read, _, _, role⟩ := reading_of_step passed
  obtain ⟨marking, _, _, _, stripped⟩ := Carry.readLine_ok read
  have bare : ∀ segment ∈ reading.marking.segments, segment.shown = [] := by
    rw [marking]
    cases tracker.carry.mode <;> simp [Marking.read, Lexeme.ofLine, Segment.shown]
  have nothing : reading.stripped.text = "" := by
    rw [stripped]
    rcases reading.marking.shown_cases options.tail tracker.carry.mode.inBlockComment with
      ⟨empty, _⟩ | ⟨front, back, split, _, same⟩
    · rw [empty]
    · have shown : front.flatMap Segment.shown = [] :=
        List.flatMap_eq_nil_iff.mpr fun segment among => bare segment (by simp [split, among])
      rw [same, shown]
  cases role with
  | blank => rw [nothing]
  | nested filled | content filled => simp [StrippedLine.isEmpty, nothing] at filled

theorem Trace.events_of_concat_empty
    (trace : Trace options tracker (lines ++ [""]) events final) :
    ∃ front, events = front ++ [.blank ""] := by
  induction lines generalizing tracker events with
  | nil =>
    cases trace with
    | step passed rest =>
      cases rest
      exact ⟨[], by rw [event_of_step_empty passed]; rfl⟩
  | cons line lines ih =>
    cases trace with
    | step passed rest =>
      obtain ⟨front, rfl⟩ := ih rest
      exact ⟨_ :: front, rfl⟩

end Tracker

/-- Each line of the output is what remains of a line, and a delimiter. -/
theorem delivers_delivered (levels : Nat) {readings : List Reading} {events : List Event}
    (texts : events.map Event.text = readings.map (·.stripped.text)) :
    List.Forall₂ Delivers readings (delivered (closers levels) events) := by
  induction events generalizing readings with
  | nil =>
    obtain rfl := List.map_eq_nil_iff.mp texts.symm
    exact .nil
  | cons event events ih =>
    obtain ⟨reading, readings, rfl, text, behind⟩ := List.map_eq_cons_iff.mp texts.symm
    refine .cons ⟨_, ?_, by rw [text]⟩ (ih behind.symm)
    split
    · exact .none
    · exact isDelimiter_delimiterBefore _ _

/-- No line feed gets into a line. -/
theorem processText_within (options : Options) (text : String) :
    ∀ line ∈ (processText options text).lines, Within (· ≠ '\n') line := by
  have supplies : Supplies (· ≠ '\n') := ⟨by decide, by decide, by decide, by decide⟩
  rw [processText]
  exact processLines_within options supplies (within_splitLines text)

/-- A run without a fault keeps the lines of a text in their places, and the empty line behind a
line feed at its end stays empty. -/
theorem processText_shape {options : Options} {text : String}
    (passed : (processText options text).fault? = none) :
    (processText options text).lines.length = text.toList.count '\n' + 1 ∧
    (∃ readings carry,
      ({} : Carry).readLines options.tail 1 (splitLines text) = .ok (readings, carry) ∧
      List.Forall₂ Delivers readings (processText options text).lines) ∧
    (text.toList.getLast? = some '\n' →
      ∃ lines, lines ≠ [] ∧ (processText options text).lines = lines ++ [""]) := by
  obtain ⟨events, final, trace, _, output⟩ := trace_of_processLines passed
  obtain ⟨readings, read, texts⟩ := trace.texts
  rw [processText, output]
  refine ⟨?_, ⟨readings, _, read, delivers_delivered final.levels.depth texts⟩, ?_⟩
  · rw [length_delivered, trace.length_events, length_splitLines]
  · intro ends
    obtain ⟨lines, some, split⟩ := splitLines_of_getLast? ends
    rw [split] at trace
    have length := trace.length_events
    obtain ⟨front, rfl⟩ := trace.events_of_concat_empty
    rw [delivered_append]
    refine ⟨_, ?_, rfl⟩
    intro none
    rw [List.length_append, List.length_append, List.length_singleton, List.length_singleton,
      Nat.add_right_cancel_iff] at length
    have empty := congrArg List.length none
    rw [length_delivered, length] at empty
    exact some (List.length_eq_zero_iff.mp empty)

namespace Cli

variable {files : Files} {request : Request} {settings : Settings} {text : String}

/-- In the format of texts the lines are printed as they are, joined by line feeds, and no line
holds one. Without a fault each line of the text has become the line in its place, and the output
ends with a line feed if the text does. -/
theorem stdout_text (reads : request.Reads files settings text)
    (action : request.action = .process) (format : settings.format = .text) :
    (request.carryOut files).stdout = joinLines (processText settings.options text).lines ∧
    (∀ line ∈ (processText settings.options text).lines, '\n' ∉ line.toList) ∧
    ((processText settings.options text).lines ≠ [] →
      (request.carryOut files).stdout.toList.splitOn '\n' =
        (processText settings.options text).lines.map String.toList) ∧
    ((processText settings.options text).fault? = none →
      (request.carryOut files).code = 0 ∧
      (request.carryOut files).stdout.toList.splitOn '\n' =
        (processText settings.options text).lines.map String.toList ∧
      (processText settings.options text).lines.length = text.toList.count '\n' + 1 ∧
      (∃ readings carry,
        ({} : Carry).readLines settings.options.tail 1 (splitLines text) = .ok (readings, carry) ∧
        List.Forall₂ Delivers readings (processText settings.options text).lines) ∧
      (text.toList.getLast? = some '\n' →
        (request.carryOut files).stdout.toList.getLast? = some '\n')) := by
  have lines : (request.carryOut files).stdout =
      joinLines (processText settings.options text).lines := by
    rw [reads.carryOut, format, printed, action]
    generalize processText settings.options text = outcome
    cases outcome.fault? <;> rfl
  have shape (some : (processText settings.options text).lines ≠ []) :
      (request.carryOut files).stdout.toList.splitOn '\n' =
        (processText settings.options text).lines.map String.toList := by
    rw [lines, splitOn_joinLines some (processText_within settings.options text)]
  refine ⟨lines, ?_, shape, ?_⟩
  · intro line member feed
    exact processText_within settings.options text line member _ feed rfl
  · intro passed
    obtain ⟨length, rows, last⟩ := processText_shape passed
    have some : (processText settings.options text).lines ≠ [] :=
      List.length_pos_iff.mp (length ▸ Nat.succ_pos _)
    refine ⟨by simp [reads.carryOut, codeOf, passed], shape some, length, rows, fun ends => ?_⟩
    obtain ⟨front, some, split⟩ := last ends
    rw [lines, split, getLast?_joinLines_concat some]

theorem stdout_text_carriageReturn :
    let text := "a // x\r\n  b\n"
    let request : Request := ⟨.process, "f", none, none, false, false, false⟩
    let stdout := (request.carryOut (single "f" text)).stdout
    request.Reads (single "f" text) {} text ∧ request.action = .process ∧
      (processText {} text).fault? = none ∧
      stdout.toList.splitOn '\n' = (processText {} text).lines.map String.toList ∧
      (processText {} text).lines.length = 3 ∧ stdout.toList.getLast? = some '\n' := by
  intro text request stdout
  have reads : request.Reads (single "f" text) {} text :=
    reads_single .process none text (by decide +kernel)
  have passed : (processText {} text).fault? = none := by decide +kernel
  obtain ⟨_, _, _, shape⟩ := stdout_text reads rfl rfl
  obtain ⟨_, split, length, _, last⟩ := shape passed
  have feeds : text.toList.count '\n' + 1 = 3 := by decide +kernel
  exact ⟨reads, rfl, passed, split, length.trans feeds, last (by decide +kernel)⟩

end Cli

end Offside
