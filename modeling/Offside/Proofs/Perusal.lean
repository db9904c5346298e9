import Mathlib.Data.List.DropRight
import Offside.Proofs.RedactedRun

/-! Lines read one character at a time. `Carry.peruse` knows no pieces: it looks at one character
and at the one behind it, and remembers what it is inside of. On every line and from every state it
answers what `Carry.strip` answers (`Carry.strip_eq_peruse`), so that both go through a text in step
(`Carry.pieces_agree_with_characters`). -/

namespace Offside

namespace Glyph

/-- The character is code or part of a string, and no space or tab. -/
def isCode (glyph : Glyph) : Bool :=
  glyph.standing != .comment && glyph.standing != .cut && !glyph.isGap

/-- Counts the brackets among the characters, from left to right, up to one that closes nothing. -/
def follow (nesting : Nesting) : List Glyph → Except Cause Nesting
  | [] => .ok nesting
  | glyph :: rest =>
    match glyph.bracket? with
    | none => follow nesting rest
    | some true => follow nesting.push rest
    | some false =>
      match nesting.pop with
      | .ok nesting => follow nesting rest
      | .error cause => .error cause

end Glyph

/-- Whether what comes first on a line opens a comment; blanks in code do not count, nor does the
comment that the line starts in. -/
def opensFirst : Phase → List Char → Bool
  | .code, '/' :: '/' :: _ => true
  | .code, '/' :: '*' :: _ => true
  | .code, c :: rest => (c == ' ' || c == '\t') && opensFirst .code rest
  | .comment _, '*' :: '/' :: rest => opensFirst .code rest
  | .comment openedAt, _ :: rest => opensFirst (.comment openedAt) rest
  | .cut, _ :: _ => true
  | _, _ => false

namespace Transcript

/-- What remains of a line: the characters of its code, and blanks for those of its block comments.
Those at its end may be dropped with a comment that crosses a line end. -/
def shown (tail : CommentTail) (carried : Bool) (transcript : Transcript) : List Char :=
  let kept : List Glyph :=
    match tail with
    | .pad => transcript.glyphs
    | .trim =>
      if carried && !transcript.glyphs.any Glyph.isCode then []
      else if transcript.phase.mode.inBlockComment then
        transcript.glyphs.rdropWhile (·.standing == .comment)
      else transcript.glyphs
  kept.flatMap Glyph.shown

end Transcript

/-- Takes the comments out of a line and counts its brackets, character by character. -/
def Carry.peruse (tail : CommentTail) (number : Nat) (line : String) (carry : Carry) :
    Except Fault StrippedLine × Carry :=
  let carried := carry.mode.inBlockComment
  let phase := Phase.ofMode carry.mode
  let transcript := transcribe number phase line.toList
  match Glyph.follow carry.nesting transcript.glyphs with
  | .error cause => (.error ⟨number, cause⟩, { mode := .code, nesting := {} })
  | .ok nesting =>
    match transcript.phase.mode with
    | .string => (.error ⟨number, .unterminatedString⟩, { mode := .string, nesting })
    | mode =>
      (.ok
        { number
          text := String.ofList (transcript.shown tail carried)
          depthAtStart := carry.nesting.depth
          ledByComment := opensFirst phase line.toList
          codeAfterCarriedComment := carried && transcript.glyphs.any Glyph.isCode },
       { mode := mode.afterLine, nesting })

/-- What is answered to lines that are read one after the other, and the state behind each of them.
A line that is rejected leaves a state as well. -/
def Carry.answers (read : Nat → String → Carry → Except Fault StrippedLine × Carry)
    (number : Nat) (carry : Carry) : List String → List (Except Fault StrippedLine × Carry)
  | [] => []
  | line :: lines =>
    let answer := read number line carry
    answer :: answers read (number + 1) answer.2 lines

section Brackets

theorem Glyph.follow_eq_foldlM (nesting : Nesting) (glyphs : List Glyph) :
    follow nesting glyphs =
      (glyphs.filterMap bracket?).foldlM
        (fun (nesting : Nesting) opens => if opens then .ok nesting.push else nesting.pop)
        nesting := by
  induction glyphs generalizing nesting with
  | nil => rfl
  | cons glyph glyphs ih =>
    rw [follow, List.filterMap_cons]
    cases glyph.bracket? with
    | none => exact ih nesting
    | some opens =>
      cases opens with
      | true => exact ih nesting.push
      | false =>
        simp only [List.foldlM_cons, Bool.false_eq_true, ↓reduceIte]
        cases nesting.pop with
        | ok inner => exact ih inner
        | error cause => rfl

theorem Marking.follow_glyphs (nesting : Nesting) (marking : Marking) :
    Glyph.follow nesting marking.glyphs = Segment.follow nesting marking.segments := by
  rw [Glyph.follow_eq_foldlM, Segment.follow_eq_foldlM, glyphs, brackets_glyphs]

end Brackets

namespace Marking

variable {number : Nat} {mode : Mode} {lexemes : List Lexeme}

theorem chars_ne_nil {lexeme : Lexeme} (proper : lexeme.IsProper) : lexeme.chars ≠ [] := by
  obtain ⟨c, run, chars, _⟩ := Lexeme.chars_eq_cons proper
  simp [chars]

/-- No segment of a line is empty. -/
theorem source_ne_nil (proper : ∀ lexeme ∈ lexemes, lexeme.IsProper) :
    ∀ segment ∈ (read number mode lexemes).segments, segment.source ≠ [] := by
  fun_induction read number mode lexemes with
  | case1 => simp
  | case2 rest => simp [Segment.source]
  | case3 rest ih | case10 openedAt rest ih =>
    have behind := ih fun lexeme member => proper lexeme (by simp [member])
    exact List.forall_mem_cons.mpr ⟨by simp [Segment.source], behind⟩
  | case4 lexeme rest ih | case7 lexeme rest ih =>
    have behind := ih fun lexeme member => proper lexeme (by simp [member])
    have here := chars_ne_nil (proper lexeme (by simp))
    exact List.forall_mem_cons.mpr
      ⟨by simp [Segment.source], List.forall_mem_cons.mpr ⟨here, behind⟩⟩
  | case5 rest ih | case8 rest ih =>
    have behind := ih fun lexeme member => proper lexeme (by simp [member])
    exact List.forall_mem_cons.mpr ⟨by simp [Segment.source], behind⟩
  | case6 lexeme rest _ _ _ _ ih =>
    have behind := ih fun lexeme member => proper lexeme (by simp [member])
    have here := chars_ne_nil (proper lexeme (by simp))
    exact List.forall_mem_cons.mpr ⟨source_codeSegment lexeme ▸ here, behind⟩
  | case9 lexeme rest _ _ ih | case11 openedAt lexeme rest _ ih =>
    have behind := ih fun lexeme member => proper lexeme (by simp [member])
    exact List.forall_mem_cons.mpr ⟨chars_ne_nil (proper lexeme (by simp)), behind⟩
  | case12 lexemes some =>
    cases lexemes with
    | nil => exact absurd rfl some
    | cons lexeme rest =>
      have here := chars_ne_nil (proper lexeme (by simp))
      simp [Segment.source, here]

theorem isBlockComment_iff {segment : Segment} :
    segment.isBlockComment = true ↔ segment.standing = .comment := by
  cases segment <;> simp [Segment.isBlockComment, Segment.standing]

theorem standing_of_mem_glyphs {segment : Segment} (member : glyph ∈ segment.glyphs) :
    glyph.standing = segment.standing := by
  obtain ⟨c, _, rfl⟩ := List.mem_map.mp member
  rfl

/-- Dropping the segments of a comment at the end drops the characters of it. -/
theorem glyphs_dropTrailingComment {segments : List Segment}
    (some : ∀ segment ∈ segments, segment.source ≠ []) :
    (segments.flatMap Segment.glyphs).rdropWhile (·.standing == .comment) =
      (Segment.dropTrailingComment segments).flatMap Segment.glyphs := by
  have trailing (segments : List Segment) :
      Segment.dropTrailingComment segments = segments.rdropWhile Segment.isBlockComment := rfl
  induction segments using List.reverseRecOn with
  | nil => rfl
  | append_singleton segments segment ih =>
    have before := ih fun other member => some other (List.mem_append_left _ member)
    rw [trailing] at before ⊢
    rw [List.flatMap_append, List.flatMap_singleton]
    by_cases comment : segment.isBlockComment = true
    · have all : ∀ glyph ∈ segment.glyphs.reverse, (glyph.standing == .comment) = true := by
        intro glyph member
        rw [standing_of_mem_glyphs (List.mem_reverse.mp member), isBlockComment_iff.mp comment]
        rfl
      rw [List.rdropWhile_concat_pos _ _ _ comment, ← before, List.rdropWhile, List.reverse_append,
        List.dropWhile_append_of_pos all, ← List.rdropWhile]
    · rw [List.rdropWhile_concat_neg _ _ _ comment, List.flatMap_append, List.flatMap_singleton]
      refine List.rdropWhile_eq_self_iff.mpr fun nonempty last => ?_
      have own : segment.glyphs ≠ [] := by
        simpa [Segment.glyphs] using some segment (by simp)
      rw [List.getLast_append_of_ne_nil _ own] at last
      have standing := standing_of_mem_glyphs (List.getLast_mem own)
      exact comment (isBlockComment_iff.mpr (standing ▸ beq_iff_eq.mp last))

/-- Of the pieces of code, only blanks have no character that counts as code. -/
theorem any_isCode_codeSegment {lexeme : Lexeme} (proper : lexeme.IsProper) :
    (codeSegment lexeme).glyphs.any Glyph.isCode = (codeSegment lexeme).isCode := by
  cases lexeme with
  | space run =>
    have gaps : ∀ c ∈ run, ¬c = ' ' → c = '\t' := fun c member =>
      (proper.2 c member).resolve_left
    simpa [codeSegment, Segment.glyphs, Segment.source, Segment.standing, Segment.isCode,
      Glyph.isCode, Glyph.isGap] using gaps
  | text run =>
    obtain ⟨some, each⟩ := proper
    cases run with
    | nil => exact absurd rfl some
    | cons c run =>
      have noGap : (c == ' ' || c == '\t') = false := by
        simpa [IsGap] using (each c List.mem_cons_self).2
      simp [codeSegment, Segment.glyphs, Segment.source, Segment.standing, Segment.isCode,
        Lexeme.chars, Glyph.isCode, Glyph.isGap, noGap]
  | _ => rfl

/-- A line that starts in code or in a comment has code just when one of its characters is code. -/
theorem hasCode_eq (proper : ∀ lexeme ∈ lexemes, lexeme.IsProper) (between : mode.IsBetween) :
    (read number mode lexemes).hasCode = (read number mode lexemes).glyphs.any Glyph.isCode := by
  have hasCode_cons (segment : Segment) (marking : Marking) :
      (marking.cons segment).hasCode = (segment.isCode || marking.hasCode) := rfl
  fun_induction read number mode lexemes with
  | case1 => rfl
  | case2 rest =>
    simp [hasCode, Segment.isCode, glyphs, Segment.glyphs, Segment.standing, Glyph.isCode]
  | case3 rest ih =>
    have behind := ih (fun lexeme member => proper lexeme (by simp [member])) (.inr rfl)
    rw [hasCode_cons, behind]
    rfl
  | case4 lexeme rest ih => rfl
  | case5 rest ih => rfl
  | case6 lexeme rest _ _ _ _ ih =>
    have behind := ih (fun lexeme member => proper lexeme (by simp [member])) (.inl rfl)
    have here := proper lexeme (by simp)
    rw [hasCode_cons, glyphs_cons, List.any_append, behind, any_isCode_codeSegment here]
  | case7 | case8 | case9 | case12 =>
    rcases between with code | inside
    · simp at code
    · simp [Mode.inBlockComment] at inside
  | case10 openedAt rest ih =>
    have behind := ih (fun lexeme member => proper lexeme (by simp [member])) (.inl rfl)
    rw [hasCode_cons, behind]
    rfl
  | case11 openedAt lexeme rest _ ih =>
    have behind := ih (fun lexeme member => proper lexeme (by simp [member])) (.inr rfl)
    have none : (Segment.comment lexeme.chars).glyphs.any Glyph.isCode = false := by
      simp [Segment.glyphs, Segment.standing, Glyph.isCode]
    rw [hasCode_cons, glyphs_cons, List.any_append, behind, none]
    rfl

section Leading

variable {line rest : List Char} {segment : Segment}

/-- A segment that is neither code nor the start of a comment is passed over. -/
theorem ledByComment_skip (noCode : segment.isCode = false) (within : segment.opensComment = false)
    (marking : Marking) :
    Segment.ledByComment (marking.cons segment).segments =
      Segment.ledByComment marking.segments := by
  have skipped := Segment.ledByComment_cons segment marking.segments
  rwa [noCode, within] at skipped

/-- In code, what comes first is the first character that is no blank. -/
theorem led_eq_opensFirst (number : Nat) (line : List Char) :
    Glyph.led (transcribe number .code line).glyphs = opensFirst .code line := by
  induction line with
  | nil => rfl
  | cons c rest ih =>
    by_cases mark : c = '/' ∧ ∃ d tail, rest = d :: tail ∧ (d = '/' ∨ d = '*')
    · obtain ⟨rfl, d, tail, rfl, rfl | rfl⟩ := mark <;> rfl
    · have plain : opensFirst .code (c :: rest) =
          ((c == ' ' || c == '\t') && opensFirst .code rest) := by
        rw [opensFirst]
        · rintro tail rfl rfl
          exact mark ⟨rfl, _, _, rfl, .inl rfl⟩
        · rintro tail rfl rfl
          exact mark ⟨rfl, _, _, rfl, .inr rfl⟩
      have apart : c = '/' → ∀ d ∈ rest.head?, d ≠ '/' ∧ d ≠ '*' := by
        rintro rfl d first
        obtain ⟨tail, same⟩ := List.head?_eq_some_iff.mp first
        exact not_or.mp fun either => mark ⟨rfl, d, tail, same, either⟩
      rw [plain, ← ih]
      by_cases joins : JoinsRun c
      · rw [Transcript.transcribe_joins number joins (by simp)]
        cases gap : c == ' ' || c == '\t' <;>
          simp [Transcript.prepend, Glyph.led_cons, Glyph.isGap, Phase.inertStanding, gap,
            Phase.unescaped]
      · rcases not_joinsRun joins with rfl | rfl | rfl | rfl | rfl | rfl
        case neg.inr.inr.inl =>
          rw [Transcript.transcribe_slash number (apart rfl)]
          rfl
        all_goals rfl

/-- In a comment, a character that does not close it is passed over. -/
theorem ledByComment_comment_cons {c : Char} (number openedAt : Nat)
    (apart : c = '*' → ∀ d ∈ rest.head?, d ≠ '/') :
    Segment.ledByComment
        (read number (.blockComment openedAt) (Lexeme.ofLine (c :: rest))).segments =
      Segment.ledByComment
        (read number (.blockComment openedAt) (Lexeme.ofLine rest)).segments := by
  by_cases joins : JoinsRun c
  · simp only [JoinsRun, List.mem_cons, List.not_mem_nil, or_false, not_or] at joins
    simp only [Lexeme.ofLine, List.foldr_cons]
    fun_cases Lexeme.cons c (List.foldr Lexeme.cons [] rest) with
    | case7 | case8 | case9 | case10 =>
      simp_all [read, Segment.ledByComment_cons, cons, Segment.isCode, Segment.opensComment]
    | _ => simp_all
  · by_cases star : c = '*'
    · subst star
      have pieces : Lexeme.ofLine ('*' :: rest) = .star :: Lexeme.ofLine rest := rfl
      rw [pieces, read_star number openedAt (apart rfl), ledByComment_skip rfl rfl]
    · have pieces : ∃ lexeme, lexeme ≠ .star ∧
          Lexeme.ofLine (c :: rest) = lexeme :: Lexeme.ofLine rest := by
        rcases not_joinsRun joins with rfl | rfl | rfl | rfl | rfl | rfl
        case inr.inr.inr.inl => exact absurd rfl star
        all_goals exact ⟨_, by simp, rfl⟩
      obtain ⟨lexeme, noStar, same⟩ := pieces
      rw [same, read_comment number openedAt noStar, ledByComment_skip rfl rfl]

theorem ledByComment_code (number : Nat) (line : List Char) :
    Segment.ledByComment (read number .code (Lexeme.ofLine line)).segments =
      opensFirst .code line := by
  rw [ledByComment_eq number (Lexeme.isProper_ofLine line), (agrees_read number .code line).1]
  exact led_eq_opensFirst number line

theorem ledByComment_comment (number openedAt : Nat) (line : List Char) :
    Segment.ledByComment (read number (.blockComment openedAt) (Lexeme.ofLine line)).segments =
      opensFirst (.comment openedAt) line := by
  induction line with
  | nil => rfl
  | cons c rest ih =>
    by_cases closes : c = '*' ∧ rest.head? = some '/'
    · obtain ⟨rfl, first⟩ := closes
      obtain ⟨tail, rfl⟩ := List.head?_eq_some_iff.mp first
      have pieces : Lexeme.ofLine ('*' :: '/' :: tail) =
          .star :: .slash :: Lexeme.ofLine tail := rfl
      rw [pieces, read, ledByComment_skip rfl rfl, ledByComment_code]
      rfl
    · have apart : c = '*' → ∀ d ∈ rest.head?, d ≠ '/' := by
        rintro star d first rfl
        exact closes ⟨star, first⟩
      have passed : opensFirst (.comment openedAt) (c :: rest) =
          opensFirst (.comment openedAt) rest := by
        rw [opensFirst]
        rintro tail rfl rfl
        exact closes ⟨rfl, rfl⟩
      rw [passed, ledByComment_comment_cons number openedAt apart, ih]

/-- Whether a line is led by a comment can be told from its characters. -/
theorem ledByComment_eq_opensFirst (number : Nat) (mode : Mode) (line : List Char) :
    Segment.ledByComment (read number mode (Lexeme.ofLine line)).segments =
      opensFirst (.ofMode mode) line := by
  cases mode with
  | code => exact ledByComment_code number line
  | blockComment openedAt => exact ledByComment_comment number openedAt line
  | string =>
    have first (lexemes : List Lexeme) :
        Segment.ledByComment (read number .string lexemes).segments = false := by
      cases lexemes with
      | nil => rfl
      | cons lexeme rest =>
        have own (run : List Char) (marking : Marking) :
            Segment.ledByComment (marking.cons (.code run)).segments = false :=
          Segment.ledByComment_cons (.code run) marking.segments
        by_cases backslash : lexeme = .backslash
        · rw [backslash, read_string_backslash, own]
        · by_cases quote : lexeme = .quote
          · rw [quote, read, own]
          · rw [read_string number backslash quote, own]
    rw [first]
    cases line <;> rfl
  | lineComment =>
    cases line with
    | nil => rfl
    | cons c rest =>
      have same := Lexeme.chars_ofLine (c :: rest)
      cases pieces : Lexeme.ofLine (c :: rest) with
      | nil => simp [pieces] at same
      | cons lexeme lexemes =>
        simp [read, Segment.ledByComment, Segment.opensComment, opensFirst, Phase.ofMode]

end Leading

theorem carried_hasCode_eq (number : Nat) (mode : Mode) (line : List Char) :
    (mode.inBlockComment && (read number mode (Lexeme.ofLine line)).hasCode) =
      (mode.inBlockComment && (transcribe number (.ofMode mode) line).glyphs.any Glyph.isCode) := by
  cases inside : mode.inBlockComment with
  | false => rfl
  | true =>
    rw [hasCode_eq (Lexeme.isProper_ofLine line) (.inr inside), (agrees_read number mode line).1]

/-- What remains of a line is what remains of its characters. -/
theorem shown_eq_transcribe (tail : CommentTail) (number : Nat) (mode : Mode) (line : List Char) :
    (read number mode (Lexeme.ofLine line)).shown tail mode.inBlockComment =
      (transcribe number (.ofMode mode) line).shown tail mode.inBlockComment := by
  have proper := Lexeme.isProper_ofLine line
  obtain ⟨glyphs, ending⟩ := agrees_read number mode line
  have padded : (transcribe number (.ofMode mode) line).glyphs.flatMap Glyph.shown =
      (read number mode (Lexeme.ofLine line)).padded := by
    rw [← glyphs, Marking.glyphs, shown_glyphs, Marking.padded]
  cases tail with
  | pad => exact padded.symm
  | trim =>
    have dropped : ((transcribe number (.ofMode mode) line).glyphs.rdropWhile
        (·.standing == .comment)).flatMap Glyph.shown =
          (Segment.dropTrailingComment
            (read number mode (Lexeme.ofLine line)).segments).flatMap Segment.shown := by
      rw [← glyphs, Marking.glyphs, glyphs_dropTrailingComment (source_ne_nil proper), shown_glyphs]
    have bare : (mode.inBlockComment && !(read number mode (Lexeme.ofLine line)).hasCode) =
        (mode.inBlockComment &&
          !(transcribe number (.ofMode mode) line).glyphs.any Glyph.isCode) := by
      have same := carried_hasCode_eq number mode line
      cases inside : mode.inBlockComment with
      | false => rfl
      | true => simpa [inside] using same
    simp only [shown, trimmed, Transcript.shown, ending, bare]
    split
    · rfl
    · split
      · exact dropped.symm
      · exact padded.symm

end Marking

namespace Carry

/-- On every line and from every state, reading by characters answers what reading by pieces
does. -/
theorem strip_eq_peruse (tail : CommentTail) (number : Nat) (line : String) (carry : Carry) :
    carry.strip tail number line = carry.peruse tail number line := by
  obtain ⟨glyphs, ending⟩ := Marking.agrees_read number carry.mode line.toList
  have followed := Marking.follow_glyphs carry.nesting
    (Marking.read number carry.mode (Lexeme.ofLine line.toList))
  rw [glyphs] at followed
  cases reached : Glyph.follow carry.nesting
      (transcribe number (.ofMode carry.mode) line.toList).glyphs with
  | error cause => simp only [strip, peruse, ← followed, reached]
  | ok nesting =>
    cases closed : (transcribe number (.ofMode carry.mode) line.toList).phase.mode <;>
      simp only [strip, peruse, ← followed, reached, ending, closed, Marking.carried_hasCode_eq,
        Marking.shown_eq_transcribe, Marking.ledByComment_eq_opensFirst]

/-- Pieces and characters agree. On every line, whatever it starts in and however many brackets are
open, they give the same line or the same fault, leave the same state, and count every character as
the same. So they agree on every text, also behind the lines of it that are rejected. -/
theorem pieces_agree_with_characters (tail : CommentTail) :
    (∀ (number : Nat) (line : String) (carry : Carry),
      carry.strip tail number line = carry.peruse tail number line ∧
        (Marking.read number carry.mode (Lexeme.ofLine line.toList)).glyphs =
          (transcribe number (.ofMode carry.mode) line.toList).glyphs) ∧
    ∀ (number : Nat) (carry : Carry) (lines : List String),
      answers (strip tail) number carry lines = answers (peruse tail) number carry lines := by
  refine ⟨fun number line carry => ?_, fun number carry lines => ?_⟩
  · exact ⟨strip_eq_peruse tail number line carry,
      (Marking.agrees_read number carry.mode line.toList).1⟩
  · induction lines generalizing number carry with
    | nil => rfl
    | cons line lines ih => rw [answers, answers, strip_eq_peruse, ih]

example : (({} : Carry).peruse .pad 1 "/*/ \x7d \\*/ a").2 = {} := by decide +kernel

end Carry

end Offside
