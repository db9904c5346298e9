import Offside.Proofs.BraceSyntax
import Offside.Proofs.Foresight
import Offside.Proofs.Observation

/-! Indentation says the same as braces. The lines of an `Outline` are run through a session, and
the braces of its output are read back to the statements the outline was made of
(`read?_processLines_outline`). -/

namespace Offside

namespace Lexeme

/-- A run of blanks or of text. -/
def IsRun (lexeme : Lexeme) : Prop :=
  ∃ run, lexeme = space run ∨ lexeme = text run

theorem isRun_ofLine {chars : List Char} (plain : ∀ c ∈ chars, c ∉ ['"', '\\', '/', '*', '{', '}']) :
    ∀ lexeme ∈ ofLine chars, lexeme.IsRun := by
  induction chars with
  | nil => simp [ofLine]
  | cons c chars ih =>
    have runs := ih fun c member => plain c (List.mem_cons_of_mem _ member)
    have here := plain c List.mem_cons_self
    simp only [List.mem_cons, List.not_mem_nil, or_false, not_or] at here
    obtain ⟨noQuote, noBackslash, noSlash, noStar, noOpen, noClose⟩ := here
    have added (lexemes : List Lexeme) (runs : ∀ lexeme ∈ lexemes, lexeme.IsRun) :
        ∀ lexeme ∈ cons c lexemes, lexeme.IsRun := by
      fun_cases cons c lexemes <;> simp_all [IsRun]
    exact added _ runs

end Lexeme

namespace Marking

variable {lexemes : List Lexeme}

/-- Runs of blanks and text are code, whatever they hold. -/
theorem read_runs (number : Nat) (runs : ∀ lexeme ∈ lexemes, lexeme.IsRun) :
    read number .code lexemes = ⟨lexemes.map codeSegment, .code⟩ := by
  induction lexemes with
  | nil => rfl
  | cons lexeme lexemes ih =>
    have rest := ih fun lexeme member => runs lexeme (List.mem_cons_of_mem _ member)
    obtain ⟨run, rfl | rfl⟩ := runs lexeme List.mem_cons_self <;> simp [read, rest, cons]

theorem follow_runs (nesting : Nesting) (runs : ∀ lexeme ∈ lexemes, lexeme.IsRun) :
    Segment.follow nesting (lexemes.map codeSegment) = .ok nesting := by
  induction lexemes with
  | nil => rfl
  | cons lexeme lexemes ih =>
    have rest := ih fun lexeme member => runs lexeme (List.mem_cons_of_mem _ member)
    obtain ⟨run, rfl | rfl⟩ := runs lexeme List.mem_cons_self <;>
      simpa [codeSegment, Segment.follow] using rest

theorem shown_runs (runs : ∀ lexeme ∈ lexemes, lexeme.IsRun) :
    (lexemes.map codeSegment).flatMap Segment.shown = lexemes.flatMap Lexeme.chars := by
  induction lexemes with
  | nil => rfl
  | cons lexeme lexemes ih =>
    have rest := ih fun lexeme member => runs lexeme (List.mem_cons_of_mem _ member)
    obtain ⟨run, rfl | rfl⟩ := runs lexeme List.mem_cons_self <;>
      simp [codeSegment, Segment.shown, Lexeme.chars, rest]

theorem ledByComment_runs (runs : ∀ lexeme ∈ lexemes, lexeme.IsRun) :
    Segment.ledByComment (lexemes.map codeSegment) = false := by
  induction lexemes with
  | nil => rfl
  | cons lexeme lexemes ih =>
    have rest := ih fun lexeme member => runs lexeme (List.mem_cons_of_mem _ member)
    obtain ⟨run, rfl | rfl⟩ := runs lexeme List.mem_cons_self
    · simpa [Segment.ledByComment, codeSegment, Segment.isCode, Segment.opensComment] using rest
    · simp [Segment.ledByComment, codeSegment, Segment.isCode, Segment.opensComment]

end Marking

/-- A line without quotes, backslashes, slashes, stars and braces is left as it is. -/
theorem Carry.strip_plain (tail : CommentTail) (number : Nat) {chars : List Char}
    (plain : ∀ c ∈ chars, c ∉ ['"', '\\', '/', '*', '{', '}']) :
    ({} : Carry).strip tail number (String.ofList chars) =
      (.ok ⟨number, String.ofList chars, 0, false, false⟩, {}) := by
  have runs := Lexeme.isRun_ofLine plain
  have shown := Marking.shown_runs runs
  rw [Lexeme.chars_ofLine] at shown
  unfold strip
  simp only [String.toList_ofList, Marking.read_runs number runs, Marking.follow_runs _ runs,
    Mode.inBlockComment, Mode.afterLine, Marking.ledByComment_runs runs]
  cases tail <;>
    simp [Marking.shown, Marking.trimmed, Marking.padded, Mode.inBlockComment, shown]

namespace Outline

/-- The lines of the outline, one for each statement. -/
def lines : Outline → List String
  | nil => []
  | cons indent text children siblings =>
    String.ofList (indent ++ text) :: (children.lines ++ siblings.lines)

/-- How many levels deep the last statement stands; one of the outermost level counts as one. -/
def lastDepth : Outline → Nat
  | nil => 0
  | cons _ _ children nil => children.lastDepth + 1
  | cons _ _ _ siblings => siblings.lastDepth

/-- The shift of a statement behind one with statements inside of it that many levels deep. -/
def back : Nat → Shift
  | 0 => .same
  | depth + 1 => .dedent (depth + 1)

/-- The roles of the lines. -/
def events (first : Shift) : Outline → List Event
  | nil => []
  | cons indent text children siblings =>
    .content (String.ofList (indent ++ text)) first ::
      (children.events .indent ++ siblings.events (back children.lastDepth))

theorem lastDepth_cons_nil (indent text : List Char) (children : Outline) :
    (cons indent text children nil).lastDepth = children.lastDepth + 1 := by
  simp [lastDepth]

theorem lastDepth_cons {siblings : Outline} (present : siblings ≠ nil)
    (indent text : List Char) (children : Outline) :
    (cons indent text children siblings).lastDepth = siblings.lastDepth := by
  cases siblings with
  | nil => exact absurd rfl present
  | cons => simp [lastDepth]

theorem lastDepth_pos {outline : Outline} (present : outline ≠ nil) : 0 < outline.lastDepth := by
  induction outline with
  | nil => exact absurd rfl present
  | cons indent text children siblings _ ih =>
    cases siblings with
    | nil => simp [lastDepth_cons_nil]
    | cons => simpa [lastDepth_cons] using ih (by simp)

end Outline

namespace Outline

theorem closers_succ (depth : Nat) (extra : String) :
    closers (depth + 1) ++ extra = closers depth ++ ("\x7d" ++ extra) := by
  apply String.toList_inj.mp
  simp [closers, List.replicate_succ']

theorem delimiterBefore_events {outline : Outline} (present : outline ≠ nil) (first : Shift)
    (closing : String) (others : List Event) :
    delimiterBefore closing (outline.events first ++ others) = first.delimiter := by
  cases outline with
  | nil => exact absurd rfl present
  | cons => simp [events, delimiterBefore_cons, Event.isBlank, Event.delimiter]

/-- The lines with their delimiters are the statements with braces, up to the braces of the levels
that the last statement leaves open. -/
theorem write_eq_delivered {outline : Outline} (present : outline ≠ nil) {depth : Nat}
    (deep : outline.lastDepth = depth + 1) (first : Shift) (extra : String) :
    (delivered (closers depth ++ extra) (outline.events first)).flatMap String.toList =
      outline.write ++ extra.toList := by
  induction outline generalizing depth first extra with
  | nil => exact absurd rfl present
  | cons indent text children siblings childrenIh siblingsIh =>
    have lines (closing : String) :
        (delivered closing ((cons indent text children siblings).events first)).flatMap
            String.toList =
          indent ++ text ++ (delimiterBefore closing (children.events .indent ++
              siblings.events (back children.lastDepth))).toList ++
            (delivered (delimiterBefore closing (siblings.events (back children.lastDepth)))
              (children.events .indent)).flatMap String.toList ++
            (delivered closing (siblings.events (back children.lastDepth))).flatMap
              String.toList := by
      simp [events, delivered, delivered_append, Event.text, Event.isBlank]
    rw [lines, write_cons]
    have childrenDeep (some_ : children ≠ nil) :
        ∃ inner, children.lastDepth = inner + 1 :=
      ⟨children.lastDepth - 1, by have := lastDepth_pos some_; omega⟩
    cases siblings with
    | nil =>
      rw [lastDepth_cons_nil] at deep
      cases children with
      | nil =>
        obtain rfl : depth = 0 := by simpa [lastDepth] using deep.symm
        simp [events, delivered, writeBlock, writeMore, closers]
      | cons childIndent childText grandchildren others =>
        obtain ⟨inner, innerDeep⟩ := childrenDeep (by simp)
        obtain rfl : depth = inner + 1 := by omega
        have block := childrenIh (by simp) innerDeep .indent ("\x7d" ++ extra)
        rw [delimiterBefore_events (by simp), closers_succ]
        simp [events, delivered, writeBlock, writeMore, Shift.delimiter] at block ⊢
        simp [block]
    | cons nextIndent nextText nephews others =>
      rw [lastDepth_cons (by simp)] at deep
      have more := siblingsIh (by simp) deep (back children.lastDepth) extra
      have decided : delimiterBefore (closers depth ++ extra)
          ((cons nextIndent nextText nephews others).events (back children.lastDepth) ++ []) =
            (back children.lastDepth).delimiter :=
        delimiterBefore_events (by simp) _ _ _
      rw [List.append_nil] at decided
      rw [more, decided]
      cases children with
      | nil =>
        rw [events, List.nil_append, decided]
        simp [delivered, writeBlock, writeMore, lastDepth, back, Shift.delimiter]
      | cons childIndent childText grandchildren others =>
        obtain ⟨inner, innerDeep⟩ := childrenDeep (by simp)
        have block := childrenIh (by simp) innerDeep .indent ("\x7d" ++ ";")
        have closed : (back (inner + 1)).delimiter = closers inner ++ ("\x7d" ++ ";") :=
          closers_succ inner ";"
        rw [delimiterBefore_events (by simp), innerDeep, closed, block]
        simp [writeBlock, writeMore, Shift.delimiter]

/-- A line of the outline is code that starts where its blanks end. -/
theorem step_statement (options : Options) (number : Nat) {indent text : List Char}
    (blanks : ∀ c ∈ indent, c = ' ' ∨ c = '\t') (plain : PlainText text) {tracker : Tracker}
    (fresh : tracker.carry = {}) (observed : tracker.levels.observe indent.length = (.ok shift, levels)) :
    tracker.step options number (String.ofList (indent ++ text)) =
      (.ok (.content (String.ofList (indent ++ text)) shift),
        { tracker with levels, lastLine := number }) := by
  have unmarked : ∀ c ∈ indent ++ text, c ∉ ['"', '\\', '/', '*', '{', '}'] := by
    intro c member
    rcases List.mem_append.mp member with before | inside
    · rcases blanks c before with rfl | rfl <;> decide
    · have := plain.2 c inside
      simp_all
  have stripped := Carry.strip_plain options.tail number unmarked
  obtain ⟨⟨c, rest, rfl, visible⟩, _⟩ := plain
  have role : Tracker.Role options ⟨number, String.ofList (indent ++ c :: rest), 0, false, false⟩
      { tracker with lastLine := number }
      (.content (String.ofList (indent ++ c :: rest)) shift)
      { tracker with levels, lastLine := number } := by
    refine .content ?_ rfl (fun _ => rfl) ?_
    · simp [StrippedLine.isEmpty, visible]
    · have width : ((indent ++ c :: rest).takeWhile isBlank).length = indent.length := by
        rw [List.takeWhile_append_of_pos (BraceSyntax.isBlank_indent blanks)]
        simp [visible]
      simpa [StrippedLine.width, width] using observed
  have classified := Tracker.classify_of_role role
  unfold Tracker.step
  rw [fresh, stripped]
  simpa [fresh] using classified

theorem observe_back {deeper outer : List Nat} {width : Nat} (wider : ∀ d ∈ deeper, width < d)
    (top : (⟨outer, true⟩ : Levels).top = width) :
    (⟨deeper ++ outer, true⟩ : Levels).observe width = (.ok (back deeper.length), ⟨outer, true⟩) := by
  have kept : outer.dropWhile (width < ·) = outer := by
    cases outer with
    | nil => rfl
    | cons head tail => simp [← top, Levels.top]
  have closed : (⟨deeper ++ outer, true⟩ : Levels).closeWider width = ⟨outer, true⟩ := by
    simp only [Levels.closeWider]
    rw [List.dropWhile_append_of_pos (by simpa using wider), kept]
  apply Levels.observe_ok_iff.mpr
  cases deeper with
  | nil => exact .same rfl top.symm
  | cons head tail =>
    have count : (⟨head :: tail ++ outer, true⟩ : Levels).depth - (⟨outer, true⟩ : Levels).depth =
        tail.length + 1 := by
      simp only [Levels.depth, List.length_append, List.length_cons]
      omega
    have observed : Levels.Observed ⟨head :: tail ++ outer, true⟩ width _ _ :=
      .dedent rfl (wider head List.mem_cons_self) (by rw [closed]; exact top)
    rw [closed, count] at observed
    exact observed

theorem observe_indent {outer : List Nat} {inner : Nat}
    (wider : (⟨outer, true⟩ : Levels).top < inner) :
    (⟨outer, true⟩ : Levels).observe inner = (.ok .indent, ⟨inner :: outer, true⟩) :=
  Levels.observe_ok_iff.mpr (.indent rfl wider)

/-- The levels behind an outline: those that its last statement leaves open, above the outer ones. -/
def LevelsBehind (outline : Outline) (width : Nat) (outer : List Nat) (before after : Levels) :
    Prop :=
  match outline with
  | nil => after = before
  | outline => ∃ deeper, after = ⟨deeper ++ outer, true⟩ ∧ deeper.length + 1 = outline.lastDepth ∧
      ∀ d ∈ deeper, width < d

/-- Every outline is accepted, with the roles that its statements have. -/
theorem trace (options : Options) (outline : Outline) (first : Shift) (outer : List Nat)
    (tracker : Tracker) {width : Nat} (laid : outline.Laid width) (plain : outline.Plain)
    (fresh : tracker.carry = {}) (top : (⟨outer, true⟩ : Levels).top = width)
    (entered : outline ≠ nil → tracker.levels.observe width = (.ok first, ⟨outer, true⟩)) :
    ∃ final, Tracker.Trace options tracker outline.lines (outline.events first) final ∧
      final.carry = {} ∧ outline.LevelsBehind width outer tracker.levels final.levels := by
  induction outline generalizing width outer tracker first with
  | nil => exact ⟨tracker, .done, fresh, rfl⟩
  | cons indent text children siblings childrenIh siblingsIh =>
    obtain ⟨rfl, blanks, ⟨inner, further, childrenLaid⟩, siblingsLaid⟩ := laid
    obtain ⟨plainText, childrenPlain, siblingsPlain⟩ := plain
    have stepped := step_statement options (tracker.lastLine + 1) blanks plainText fresh
      (entered (by simp))
    -- The statements inside leave open what lies deeper than this statement.
    obtain ⟨middle, childrenTrace, middleFresh, childrenLevels⟩ :=
      childrenIh .indent (inner :: outer)
        { tracker with levels := ⟨outer, true⟩, lastLine := tracker.lastLine + 1 }
        childrenLaid childrenPlain fresh rfl (fun _ => observe_indent (by rwa [top]))
    have behindChildren : ∃ deeper, middle.levels = ⟨deeper ++ outer, true⟩ ∧
        deeper.length = children.lastDepth ∧ ∀ d ∈ deeper, indent.length < d := by
      cases children with
      | nil => exact ⟨[], childrenLevels, rfl, by simp⟩
      | cons =>
        obtain ⟨deeper, same, length, wider⟩ := childrenLevels
        refine ⟨deeper ++ [inner], by simpa using same, by simpa using length, ?_⟩
        intro d member
        rcases List.mem_append.mp member with above | own
        · exact Nat.lt_trans further (wider d above)
        · simpa [List.mem_singleton.mp own] using further
    obtain ⟨deeper, same, length, wider⟩ := behindChildren
    obtain ⟨final, siblingsTrace, finalFresh, siblingsLevels⟩ :=
      siblingsIh (back children.lastDepth) outer middle siblingsLaid siblingsPlain middleFresh top
        (fun _ => by rw [same, ← length]; exact observe_back wider top)
    refine ⟨final, .step stepped (childrenTrace.append siblingsTrace), finalFresh, ?_⟩
    cases siblings with
    | nil =>
      refine ⟨deeper, ?_, by rw [length, lastDepth_cons_nil], wider⟩
      rw [← same]
      exact siblingsLevels
    | cons => simpa [LevelsBehind, lastDepth_cons] using siblingsLevels

end Outline

/-- A session accepts every outline, and the braces of its output say what the indentation said. -/
theorem read?_processLines_outline (options : Options) (outline : Outline)
    (present : outline ≠ .nil) (laid : outline.Laid 0) (plain : outline.Plain) :
    (processLines options outline.lines).fault? = none ∧
      BraceSyntax.read? ((processLines options outline.lines).lines.flatMap String.toList) =
        some outline.forest := by
  obtain ⟨final, trace, fresh, levels⟩ := outline.trace options .baseline [] {} laid plain rfl rfl
    (fun _ => rfl)
  have output := processLines_of_trace trace (by rw [fresh]; rfl)
  rw [output]
  refine ⟨rfl, ?_⟩
  cases outline with
  | nil => exact absurd rfl present
  | cons indent text children siblings =>
    obtain ⟨deeper, same, length, _⟩ := levels
    have written := Outline.write_eq_delivered present length.symm .baseline ""
    have depth : final.levels.depth = deeper.length := by simp [same, Levels.depth]
    rw [String.append_empty, String.toList_empty, List.append_nil] at written
    rw [depth, written]
    exact BraceSyntax.read?_write present laid plain

/-- Statements of two levels and three, indented by blanks and by tabs. -/
def Outline.mixed : Outline :=
  .cons [] ['a']
    (.cons ['\t'] ['b'] (.cons [' ', ' ', '\t'] ['c'] .nil .nil)
      (.cons [' '] ['d', ' ', 'x'] (.cons ['\t', '\t'] ['e'] .nil .nil) .nil))
    (.cons [] ['f'] (.cons [' ', ' ', ' ', ' '] ['g'] .nil .nil) .nil)

theorem read?_processLines_outline_mixed :
    Outline.mixed ≠ .nil ∧ Outline.mixed.Laid 0 ∧ Outline.mixed.Plain ∧
    Outline.mixed.lines = ["a", "\tb", "  \tc", " d x", "\t\te", "f", "    g"] ∧
    (processLines {} Outline.mixed.lines).fault? = none ∧
    BraceSyntax.read? ((processLines {} Outline.mixed.lines).lines.flatMap String.toList) =
      some Outline.mixed.forest :=
  have present : Outline.mixed ≠ .nil := by simp [Outline.mixed]
  have laid : Outline.mixed.Laid 0 :=
    ⟨rfl, by simp,
      ⟨1, by decide, rfl, by simp, ⟨3, by decide, rfl, by simp, ⟨4, by decide, trivial⟩, trivial⟩,
        rfl, by simp, ⟨2, by decide, rfl, by simp, ⟨3, by decide, trivial⟩, trivial⟩, trivial⟩,
      rfl, by simp, ⟨4, by decide, rfl, by simp, ⟨5, by decide, trivial⟩, trivial⟩, trivial⟩
  have plain : Outline.mixed.Plain := by
    simp [Outline.mixed, Outline.Plain, Outline.PlainText]
    decide
  ⟨present, laid, plain, rfl, read?_processLines_outline {} _ present laid plain⟩

end Offside
