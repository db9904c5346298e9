import Offside.Proofs.BracketWord

/-! What remains of a line is read a second time. It is read as before, its comments apart, and
what stands behind it is code unless the line ends in an odd number of backslashes
(`Carry.settles_of_readLine`). -/

namespace Offside

namespace Phase

/-- The phase of a second reading, which meets no comments. -/
def settled : Phase → Phase
  | comment _ | cut => code
  | phase => phase

/-- The phase behind a character, where no comment starts. -/
def next (phase : Phase) (c : Char) : Phase :=
  match phase with
  | code => if c = '\\' then escape else if c = '"' then string else code
  | escape => code
  | string => if c = '\\' then stringEscape else if c = '"' then code else string
  | stringEscape => string
  | phase => phase

/-- The place is one behind a backslash that has not taken a character along. -/
def escaping : Phase → Bool
  | escape | stringEscape => true
  | _ => false

end Phase

/-- A character as a second reading meets it. -/
def Glyph.settled (glyph : Glyph) : List Glyph :=
  match glyph.standing with
  | .comment => [⟨' ', .kept⟩]
  | .cut => []
  | _ => [glyph]

/-- The number of backslashes at the end of a text is odd. -/
def endsInEscape (text : List Char) : Bool :=
  (text.reverse.takeWhile fun c => c == '\\').length % 2 == 1

/-- What stands behind the text of the transcript is read from its settled phase on, with or without
the comments at the end of the text. -/
def Transcript.Rereads (number : Nat) (rest : List Char) (phase : Phase) (transcript : Transcript) :
    Prop :=
  ∀ front back, transcript.glyphs = front ++ back →
    (∀ glyph ∈ back, glyph.standing = .comment) →
      transcribe number phase.settled (front.flatMap Glyph.shown ++ rest) =
        (transcribe number transcript.phase.settled rest).prepend (front.flatMap Glyph.settled)

namespace Transcript

variable {number : Nat} {rest : List Char} {phase later : Phase} {transcript : Transcript}

@[simp] theorem prepend_prepend (first second : List Glyph) (transcript : Transcript) :
    (transcript.prepend second).prepend first = transcript.prepend (first ++ second) := by
  simp [prepend]

theorem rereads_nil : Rereads number rest phase ⟨[], phase⟩ := by
  intro front back same _
  obtain ⟨rfl, rfl⟩ : front = [] ∧ back = [] := by simpa using same.symm
  rfl

theorem rereads_cut (line : List Char) (settled : phase.settled = .code) :
    Rereads number rest phase ⟨line.map (⟨·, .cut⟩), .cut⟩ := by
  intro front back same _
  have gone : ∀ glyph ∈ front, glyph.standing = .cut := by
    intro glyph member
    have : glyph ∈ line.map (⟨·, .cut⟩) := by
      dsimp only at same
      rw [same]
      exact List.mem_append_left back member
    obtain ⟨c, _, rfl⟩ := List.mem_map.mp this
    rfl
  have shown : front.flatMap Glyph.shown = [] := by
    rw [List.flatMap_eq_nil_iff]
    intro glyph member
    simp [Glyph.shown, gone glyph member]
  have kept : front.flatMap Glyph.settled = [] := by
    rw [List.flatMap_eq_nil_iff]
    intro glyph member
    simp [Glyph.settled, gone glyph member]
  rw [shown, kept, settled]
  rfl

/-- A character of a comment is a blank. -/
theorem Rereads.comment (rereads : transcript.Rereads number rest later) (phase : Phase) (c : Char)
    (before : phase.settled = .code) (after : later.settled = .code) :
    (transcript.prepend [⟨c, .comment⟩]).Rereads number rest phase := by
  intro front back same comment
  rcases List.cons_eq_append_iff.mp same with ⟨rfl, rfl⟩ | ⟨front, rfl, split⟩
  · have none := rereads [] transcript.glyphs rfl fun glyph member =>
      comment glyph (List.mem_cons_of_mem _ member)
    rw [after] at none
    rw [before]
    exact none
  · have more := rereads front back split comment
    rw [after] at more
    rw [before]
    have shown : (⟨c, .comment⟩ :: front).flatMap Glyph.shown =
        ' ' :: front.flatMap Glyph.shown := rfl
    have settled : (⟨c, .comment⟩ :: front).flatMap Glyph.settled =
        ⟨' ', .kept⟩ :: front.flatMap Glyph.settled := rfl
    rw [shown, settled, List.cons_append, transcribe, more, prepend_prepend]
    · rfl
    all_goals simp

/-- A character that stays is read as it was. -/
theorem Rereads.kept (rereads : transcript.Rereads number rest later) {glyph : Glyph}
    (uncommented : glyph.standing ≠ .comment) (uncut : glyph.standing ≠ .cut)
    (read : ∀ front back, transcript.glyphs = front ++ back →
      transcribe number phase.settled (glyph.char :: (front.flatMap Glyph.shown ++ rest)) =
        (transcribe number later.settled (front.flatMap Glyph.shown ++ rest)).prepend [glyph]) :
    (transcript.prepend [glyph]).Rereads number rest phase := by
  intro front back same comment
  rcases List.cons_eq_append_iff.mp same with ⟨rfl, rfl⟩ | ⟨front, rfl, split⟩
  · exact absurd (comment _ List.mem_cons_self) uncommented
  · have shown : glyph.shown = [glyph.char] := by
      unfold Glyph.shown
      split <;> simp_all
    have settled : glyph.settled = [glyph] := by
      unfold Glyph.settled
      split <;> simp_all
    rw [List.flatMap_cons, List.flatMap_cons, shown, settled, List.append_assoc,
      List.singleton_append, read front back split, rereads front back split comment,
      prepend_prepend]
    rfl

/-- In code, a character other than a slash stays. -/
theorem transcribe_code_cons (number : Nat) {c : Char} (noSlash : c ≠ '/') (line : List Char) :
    ∃ (standing : Standing) (transcript : Transcript),
      transcribe number .code (c :: line) = transcript.prepend [⟨c, standing⟩] ∧
        Glyph.shown ⟨c, standing⟩ = [c] := by
  by_cases backslash : c = '\\'
  · subst backslash
    exact ⟨.kept, transcribe number .escape line, rfl, rfl⟩
  by_cases quote : c = '"'
  · subst quote
    exact ⟨.kept, transcribe number .string line, rfl, rfl⟩
  by_cases opens : c = '{'
  · subst opens
    exact ⟨.opening, transcribe number .code line, rfl, rfl⟩
  by_cases closes : c = '}'
  · subst closes
    exact ⟨.closing, transcribe number .code line, rfl, rfl⟩
  refine ⟨.kept, transcribe number .code line, ?_, rfl⟩
  simp [transcribe, noSlash]

/-- No half of a comment mark comes to stand in front of the code. -/
theorem head?_shown (number : Nat) {line : List Char} {front back : List Glyph}
    (same : (transcribe number .code line).glyphs = front ++ back)
    (apart : ∀ c ∈ line.head?, c ≠ '/' ∧ c ≠ '*') (later : ∀ c ∈ rest.head?, c ≠ '/' ∧ c ≠ '*') :
    ∀ c ∈ (front.flatMap Glyph.shown ++ rest).head?, c ≠ '/' ∧ c ≠ '*' := by
  cases front with
  | nil => exact later
  | cons glyph front =>
    cases line with
    | nil => simp [transcribe] at same
    | cons d line =>
      obtain ⟨standing, transcript, read, shown⟩ :=
        transcribe_code_cons number (apart d rfl).1 line
      obtain ⟨rfl, _⟩ : ⟨d, standing⟩ = glyph ∧ transcript.glyphs = front ++ back := by
        simpa [read, prepend] using same
      rw [List.flatMap_cons, shown]
      exact apart

theorem transcribe_slash (number : Nat) {line : List Char}
    (apart : ∀ c ∈ line.head?, c ≠ '/' ∧ c ≠ '*') :
    transcribe number .code ('/' :: line) =
      (transcribe number .code line).prepend [⟨'/', .kept⟩] := by
  cases line with
  | nil => rfl
  | cons c line =>
    obtain ⟨noSlash, noStar⟩ := apart c rfl
    rw [transcribe] <;> simp [noSlash, noStar]

/-- A line is read a second time as it was read first. -/
theorem rereads_transcribe (first second : Nat) (phase : Phase) (line : List Char) {rest : List Char}
    (apart : ∀ c ∈ rest.head?, c ≠ '/' ∧ c ≠ '*') :
    (transcribe first phase line).Rereads second rest phase := by
  fun_induction transcribe first phase line with
  | case1 phase => exact rereads_nil
  | case2 line => exact rereads_cut ('/' :: '/' :: line) rfl
  | case3 line ih =>
    have inside := ih.comment (.comment first) '*' rfl rfl
    have whole := inside.comment .code '/' rfl rfl
    rwa [prepend_prepend] at whole
  | case4 line ih => exact ih.kept (by simp) (by simp) fun front back same => rfl
  | case5 line ih => exact ih.kept (by simp) (by simp) fun front back same => rfl
  | case6 line ih => exact ih.kept (by simp) (by simp) fun front back same => rfl
  | case7 line ih => exact ih.kept (by simp) (by simp) fun front back same => rfl
  | case8 c line noLine noBlock noBackslash noQuote noOpen noClose ih =>
    refine ih.kept (by simp) (by simp) fun front back same => ?_
    by_cases slash : c = '/'
    · subst slash
      have apartLine : ∀ c ∈ line.head?, c ≠ '/' ∧ c ≠ '*' := fun c first =>
        ⟨Marking.head?_ne (fun tail => noLine tail rfl) c first,
          Marking.head?_ne (fun tail => noBlock tail rfl) c first⟩
      exact transcribe_slash second (head?_shown first same apartLine apart)
    · simp [transcribe, Phase.settled, slash]
  | case9 c line ih =>
    exact ih.kept (by simp) (by simp) fun front back same => by simp [transcribe, Phase.settled]
  | case10 line ih => exact ih.kept (by simp) (by simp) fun front back same => rfl
  | case11 line ih => exact ih.kept (by simp) (by simp) fun front back same => rfl
  | case12 c line noBackslash noQuote ih =>
    refine ih.kept (by simp) (by simp) fun front back same => ?_
    simp [transcribe, Phase.settled]
  | case13 c line ih =>
    exact ih.kept (by simp) (by simp) fun front back same => by simp [transcribe, Phase.settled]
  | case14 openedAt line ih =>
    have last := ih.comment (.comment openedAt) '/' rfl rfl
    have whole := last.comment (.comment openedAt) '*' rfl rfl
    rwa [prepend_prepend] at whole
  | case15 openedAt c line noClose ih => exact ih.comment (.comment openedAt) c rfl rfl
  | case16 line present => exact rereads_cut line rfl

/-- Where no comment is, the phase moves by one character after the other. -/
theorem phase_transcribe (number : Nat) (phase : Phase) (line : List Char)
    (free : ∀ glyph ∈ (transcribe number phase line).glyphs,
      glyph.standing ≠ .comment ∧ glyph.standing ≠ .cut) :
    (transcribe number phase line).phase = line.foldl Phase.next phase := by
  fun_induction transcribe number phase line with
  | case1 => rfl
  | case2 | case3 | case14 | case15 => simp [prepend] at free
  | case16 line present =>
    cases line with
    | nil => rfl
    | cons => simp at free
  | case4 line ih | case5 line ih | case6 line ih | case7 line ih | case10 line ih
  | case11 line ih => exact ih fun glyph member => free glyph (List.mem_cons_of_mem _ member)
  | case8 c line noLine noBlock noBackslash noQuote noOpen noClose ih =>
    have moved : Phase.next .code c = .code := by
      simp [Phase.next, show c ≠ '\\' from noBackslash, show c ≠ '"' from noQuote]
    rw [List.foldl_cons, moved]
    exact ih fun glyph member => free glyph (List.mem_cons_of_mem _ member)
  | case9 c line ih | case13 c line ih =>
    exact ih fun glyph member => free glyph (List.mem_cons_of_mem _ member)
  | case12 c line noBackslash noQuote ih =>
    have moved : Phase.next .string c = .string := by
      simp [Phase.next, show c ≠ '\\' from noBackslash, show c ≠ '"' from noQuote]
    rw [List.foldl_cons, moved]
    exact ih fun glyph member => free glyph (List.mem_cons_of_mem _ member)

end Transcript

namespace Phase

variable {phase : Phase} {c : Char}

theorem settled_next (settled : phase.settled = phase) :
    (phase.next c).settled = phase.next c := by
  cases phase with
  | code | string =>
    simp only [next]
    split
    · rfl
    · split <;> rfl
  | escape | stringEscape => rfl
  | comment openedAt => simp [Phase.settled] at settled
  | cut => simp [Phase.settled] at settled

theorem escaping_next_backslash (settled : phase.settled = phase) :
    (phase.next '\\').escaping = !phase.escaping := by
  cases phase with
  | comment openedAt => simp [Phase.settled] at settled
  | cut => simp [Phase.settled] at settled
  | _ => rfl

theorem escaping_next (other : c ≠ '\\') : (phase.next c).escaping = false := by
  cases phase with
  | code | string =>
    simp only [next, other, ↓reduceIte]
    split <;> rfl
  | _ => rfl

end Phase

/-- The place behind a text is one behind such a backslash if the text ends in an odd number of
them. -/
theorem escaping_foldl_next (text : List Char) :
    (text.foldl Phase.next .code).escaping = endsInEscape text := by
  -- The characters are taken from the back, as the backslashes are counted.
  rw [← List.reverse_reverse text, List.foldl_reverse, endsInEscape, List.reverse_reverse]
  suffices both : (text.reverse.foldr (fun c phase => Phase.next phase c) .code).settled =
      text.reverse.foldr (fun c phase => Phase.next phase c) .code ∧
      (text.reverse.foldr (fun c phase => Phase.next phase c) .code).escaping =
        ((text.reverse.takeWhile fun c => c == '\\').length % 2 == 1) from both.2
  induction text.reverse with
  | nil => exact ⟨rfl, rfl⟩
  | cons c text ih =>
    obtain ⟨settled, parity⟩ := ih
    rw [List.foldr_cons]
    refine ⟨Phase.settled_next settled, ?_⟩
    by_cases backslash : c = '\\'
    · subst backslash
      have odd (count : Nat) : ((count + 1) % 2 == 1) = !(count % 2 == 1) := by
        apply Bool.eq_iff_iff.mpr
        simp only [beq_iff_eq, Bool.not_eq_true', beq_eq_false_iff_ne]
        omega
      rw [Phase.escaping_next_backslash settled, parity, ← odd]
      simp
    · rw [Phase.escaping_next backslash]
      simp [backslash]

/-- The phase behind what remains of a line that does not end in a string. -/
def phaseBehind (text : List Char) : Phase :=
  if endsInEscape text then .escape else .code

/-- What remains of the line is read a second time with the same brackets, and what stands behind it
is code, or escaped when the line ends in an odd number of backslashes. -/
def Reading.Settles (reading : Reading) : Prop :=
  ∃ glyphs : List Glyph, glyphs.length = reading.stripped.text.toList.length ∧
    glyphs.filterMap Glyph.bracket? = reading.marking.segments.filterMap Segment.bracket? ∧
    ∀ number (rest : List Char), (∀ c ∈ rest.head?, c ≠ '/' ∧ c ≠ '*') →
      transcribe number .code (reading.stripped.text.toList ++ rest) =
        (transcribe number (phaseBehind reading.stripped.text.toList) rest).prepend glyphs

/-- Characters of a second reading are shown as those of the first. -/
theorem Glyph.shown_settled (glyphs : List Glyph) :
    (glyphs.flatMap settled).flatMap shown = glyphs.flatMap shown := by
  have each (glyph : Glyph) : glyph.settled.flatMap shown = glyph.shown := by
    obtain ⟨c, standing⟩ := glyph
    cases standing <;> rfl
  simp only [List.flatMap_assoc, each]

theorem Glyph.length_shown {glyphs : List Glyph}
    (kept : ∀ glyph ∈ glyphs, glyph.standing ≠ .comment ∧ glyph.standing ≠ .cut) :
    (glyphs.flatMap shown).length = glyphs.length := by
  induction glyphs with
  | nil => rfl
  | cons glyph glyphs ih =>
    obtain ⟨here, behind⟩ := List.forall_mem_cons.mp kept
    have one : glyph.shown.length = 1 := by
      obtain ⟨c, standing⟩ := glyph
      cases standing <;> simp_all [shown]
    simp [one, ih behind, Nat.add_comm]

theorem Glyph.bracket?_settled (glyphs : List Glyph) :
    (glyphs.flatMap settled).filterMap bracket? = glyphs.filterMap bracket? := by
  induction glyphs with
  | nil => rfl
  | cons glyph glyphs ih =>
    have here : glyph.settled.filterMap bracket? = glyph.bracket?.toList := by
      obtain ⟨c, standing⟩ := glyph
      cases standing <;> rfl
    cases bracket : glyph.bracket? <;> simp [here, ih, bracket]

theorem Glyph.standing_settled {glyphs : List Glyph} :
    ∀ glyph ∈ glyphs.flatMap settled, glyph.standing ≠ .comment ∧ glyph.standing ≠ .cut := by
  intro glyph member
  obtain ⟨⟨c, standing⟩, _, part⟩ := List.mem_flatMap.mp member
  cases standing <;> simp_all [settled]

/-- The phase at the end of a line that is no string is known from what remains of the line. -/
theorem settled_eq_phaseBehind {phase : Phase} (text : List Char) (closed : phase.mode ≠ .string)
    (same : phase.settled = text.foldl Phase.next .code) : phase.settled = phaseBehind text := by
  have escaping := escaping_foldl_next text
  rw [← same] at escaping
  rw [phaseBehind, ← escaping]
  cases phase with
  | string | stringEscape => exact absurd rfl closed
  | _ => rfl

namespace Marking

variable {number : Nat} {phase : Phase} {line : List Char} {marking : Marking}
variable {front back : List Segment}

/-- What remains of a line, without the comments at its end or with them, is read as before. -/
theorem transcribe_shown (agrees : marking.Agrees (transcribe number phase line))
    (split : marking.segments = front ++ back)
    (comment : ∀ segment ∈ back, segment.isBlockComment = true) (start : phase.settled = .code)
    (second : Nat) {rest : List Char} (apart : ∀ c ∈ rest.head?, c ≠ '/' ∧ c ≠ '*') :
    transcribe second .code (front.flatMap Segment.shown ++ rest) =
      (transcribe second (transcribe number phase line).phase.settled rest).prepend
        ((front.flatMap Segment.glyphs).flatMap Glyph.settled) := by
  have parts : (transcribe number phase line).glyphs =
      front.flatMap Segment.glyphs ++ back.flatMap Segment.glyphs := by
    rw [← agrees.1, glyphs, split, List.flatMap_append]
  have commentBack : ∀ glyph ∈ back.flatMap Segment.glyphs, glyph.standing = .comment := by
    intro glyph member
    obtain ⟨segment, here, part⟩ := List.mem_flatMap.mp member
    obtain ⟨c, _, rfl⟩ := List.mem_map.mp part
    have := comment segment here
    cases segment <;> simp_all [Segment.isBlockComment, Segment.standing]
  have reread := Transcript.rereads_transcribe number second phase line apart _ _ parts commentBack
  rwa [start, shown_glyphs] at reread

/-- The phase behind a line that does not end in a string is known from what remains of it. -/
theorem settled_phase (agrees : marking.Agrees (transcribe number phase line))
    (split : marking.segments = front ++ back)
    (comment : ∀ segment ∈ back, segment.isBlockComment = true) (start : phase.settled = .code)
    (closed : marking.mode ≠ .string) :
    (transcribe number phase line).phase.settled = phaseBehind (front.flatMap Segment.shown) := by
  have nothing : ∀ c ∈ ([] : List Char).head?, c ≠ '/' ∧ c ≠ '*' := by simp
  have alone := transcribe_shown agrees split comment start 0 nothing
  rw [List.append_nil, transcribe, Transcript.prepend, List.append_nil] at alone
  apply settled_eq_phaseBehind
  · rw [← agrees.2]
    exact closed
  · rw [← Transcript.phase_transcribe 0 .code, alone]
    rw [alone]
    exact Glyph.standing_settled

end Marking

/-- What remains of a line is its own reading: all of it is kept, with the brackets of the line, and
behind it the text goes on in code, or escaped. -/
theorem Carry.reread_of_readLine {carry : Carry} {line : String} {reading : Reading}
    (read : carry.readLine tail number line = .ok reading) (outside : carry.mode ≠ .string) :
    ∃ glyphs : List Glyph, glyphs.flatMap Glyph.shown = reading.stripped.text.toList ∧
      (∀ glyph ∈ glyphs, glyph.standing ≠ .comment ∧ glyph.standing ≠ .cut) ∧
      glyphs.filterMap Glyph.bracket? = reading.marking.segments.filterMap Segment.bracket? ∧
      ∀ second (rest : List Char), (∀ c ∈ rest.head?, c ≠ '/' ∧ c ≠ '*') →
        transcribe second .code (reading.stripped.text.toList ++ rest) =
          (transcribe second (phaseBehind reading.stripped.text.toList) rest).prepend glyphs := by
  obtain ⟨marking, _, closed, _, stripped⟩ := Carry.readLine_ok read
  have text : reading.stripped.text.toList =
      reading.marking.shown tail carry.mode.inBlockComment := by
    rw [stripped]
    exact String.toList_ofList
  rw [text]
  rcases reading.marking.shown_cases tail carry.mode.inBlockComment with
    ⟨nothing, _, noCode⟩ | ⟨front, back, split, comment, shown⟩
  · refine ⟨[], ?_, by simp, ?_, ?_⟩
    · rw [nothing]
      rfl
    · rw [brackets_of_noCode noCode]
      rfl
    · intro second rest _
      rw [nothing]
      rfl
  · have agrees := Marking.agrees_read number carry.mode line.toList
    rw [← marking] at agrees
    have start : (Phase.ofMode carry.mode).settled = .code := by
      cases before : carry.mode with
      | string => exact absurd before outside
      | _ => rfl
    rw [shown]
    refine ⟨(front.flatMap Segment.glyphs).flatMap Glyph.settled, ?_, Glyph.standing_settled, ?_, ?_⟩
    · rw [Glyph.shown_settled, Marking.shown_glyphs]
    · rw [Glyph.bracket?_settled, Marking.brackets_glyphs, split, List.filterMap_append,
        brackets_of_isBlockComment comment, List.append_nil]
    · intro second rest apart
      rw [Marking.transcribe_shown agrees split comment start second apart,
        Marking.settled_phase agrees split comment start closed]

theorem Carry.settles_of_readLine {carry : Carry} {line : String} {reading : Reading}
    (read : carry.readLine tail number line = .ok reading) (outside : carry.mode ≠ .string) :
    reading.Settles := by
  obtain ⟨glyphs, shown, kept, brackets, reread⟩ := Carry.reread_of_readLine read outside
  exact ⟨glyphs, by rw [← shown, Glyph.length_shown kept], brackets, reread⟩

end Offside
