import Offside.Proofs.BracketWord
import Offside.Proofs.FaultLines
import Offside.Proofs.Registers

/-! A tracker used in any way: lines with any numbers and ends of the text in any order, also behind
a call that failed. Between two calls a block comment has the line it was opened on, and a string is
open only behind a line that was rejected for it (`Tracker.Consistent`); no call touches more than it
has to (`Tracker.consistent_in_any_use`). -/

namespace Offside.Tracker

/-- What can be asked of a tracker. -/
inductive Call where
  /-- Read a line. -/
  | step (number : Nat) (line : String)
  /-- End the text. -/
  | finish
deriving DecidableEq, Repr

def Call.isStep : Call → Bool
  | step _ _ => true
  | finish => false

inductive Reply where
  | role (event : Event)
  /-- So many levels were open at the end of the text. -/
  | closed (count : Nat)
  | refusal (fault : Fault)
deriving DecidableEq, Repr

/-- A call with the answer to it, and the tracker before and behind it. -/
structure Record where
  before : Tracker
  call : Call
  reply : Reply
  after : Tracker
deriving DecidableEq, Repr

def Reply.ofRole : Except Fault Event → Reply
  | .ok event => role event
  | .error fault => refusal fault

def Reply.ofEnd : Except Fault Nat → Reply
  | .ok count => closed count
  | .error fault => refusal fault

/-- Carries the call out. -/
def record (options : Options) (tracker : Tracker) (call : Call) : Record :=
  match call with
  | .step number line =>
    let (result, after) := tracker.step options number line
    { before := tracker, call, reply := .ofRole result, after }
  | .finish =>
    let (result, after) := tracker.finish
    { before := tracker, call, reply := .ofEnd result, after }

/-- All calls, one after the other. What a failed call leaves is used on. -/
def history (options : Options) (tracker : Tracker) : List Call → List Record
  | [] => []
  | call :: calls =>
    let record := tracker.record options call
    record :: history options record.after calls

/-- The tracker behind all calls. -/
def afterCalls (options : Options) (tracker : Tracker) (calls : List Call) : Tracker :=
  calls.foldl (fun tracker call => (tracker.record options call).after) tracker

/-- The answer to the last line that was read. -/
def lastReply? (records : List Record) : Option Reply :=
  (records.filter (·.call.isStep)).getLast?.map Record.reply

/-- What a call leaves in registers. The end of the text is nothing to them. -/
def Call.write (registers : Registers) : Call → Registers
  | .step number line => (registers.readLine number line).2
  | .finish => registers

/-- The registers behind all calls. -/
def registersBehind (calls : List Call) : Registers :=
  calls.foldl Call.write {}

/-- A line was read in which the block comment was opened, and which does not leave it again. -/
def Record.Opens (record : Record) (openedAt : Nat) : Prop :=
  ∃ line, record.call = .step openedAt line ∧
    (Marking.read openedAt record.before.carry.mode (Lexeme.ofLine line.toList)).Opens

/-- What a call may touch. An empty line leaves brackets and levels alone, a line in brackets the
levels; a rejected line leaves the levels to what comparing a width with them left, if it was rejected
for its width, and else alone; the end of the text leaves all but the levels alone, and these as well
if it is refused. -/
structure Record.Sound (record : Record) : Prop where
  blank : ∀ text, record.reply = .role (.blank text) →
    record.after.carry.nesting = record.before.carry.nesting ∧
      record.after.levels = record.before.levels
  nested : ∀ text, record.reply = .role (.nested text) →
    record.after.levels = record.before.levels
  content : ∀ text shift, record.reply = .role (.content text shift) →
    record.before.levels.observe (text.toList.takeWhile isBlank).length =
      (.ok shift, record.after.levels)
  rejected : ∀ number line fault, record.call = .step number line → record.reply = .refusal fault →
    (fault.cause.kind = .malformed → record.after.levels = record.before.levels) ∧
      (fault.cause.kind = .misindented →
        ∃ width, record.before.levels.observe width = (.error fault.cause, record.after.levels))
  finish : record.call = .finish →
    record.after.carry = record.before.carry ∧
      ∀ fault, record.reply = .refusal fault → record.after.levels = record.before.levels

/-- What a tracker knows fits what it was asked. -/
structure Consistent (records : List Record) (tracker : Tracker) : Prop where
  uncut : tracker.carry.mode ≠ .lineComment
  string_iff : tracker.carry.mode = .string ↔
    ∃ number, lastReply? records = some (.refusal ⟨number, .unterminatedString⟩)
  opened : ∀ openedAt, tracker.carry.mode = .blockComment openedAt →
    ∃ record ∈ records, record.Opens openedAt

/-- What a line can come to. -/
inductive Stepped (options : Options) (number : Nat) (line : String) (tracker : Tracker) :
    Except Fault Event × Tracker → Prop where
  | unread {fault : Fault} {carry : Carry}
      (failed : tracker.carry.strip options.tail number line = (.error fault, carry)) :
      Stepped options number line tracker
        (.error fault, { tracker with carry, lastLine := number })
  | passed {reading : Reading} {event : Event} {next : Tracker}
      (read : tracker.carry.readLine options.tail number line = .ok reading)
      (role : Role options reading.stripped
        { tracker with carry := reading.after, lastLine := number } event next) :
      Stepped options number line tracker (.ok event, next)
  | misplaced {reading : Reading} {cause : Cause}
      (read : tracker.carry.readLine options.tail number line = .ok reading)
      (misplaced : reading.stripped.misplacedComment? = some cause) :
      Stepped options number line tracker
        (.error ⟨number, cause⟩, { tracker with carry := reading.after, lastLine := number })
  | misindented {reading : Reading} {cause : Cause} {levels : Levels}
      (read : tracker.carry.readLine options.tail number line = .ok reading)
      (refused : tracker.levels.observe reading.stripped.width = (.error cause, levels)) :
      Stepped options number line tracker
        (.error ⟨number, cause⟩, { carry := reading.after, levels, lastLine := number })

section Step

variable {options : Options} {tracker next : Tracker} {number : Nat} {line : String}
variable {result : Except Fault Event}

theorem stepped_step (options : Options) (number : Nat) (line : String) (tracker : Tracker) :
    Stepped options number line tracker (tracker.step options number line) := by
  rcases read : tracker.carry.strip options.tail number line with ⟨fault | stripped, carry⟩
  · have rejected : tracker.step options number line =
        (.error fault, { tracker with carry, lastLine := number }) := by
      simp only [step, read]
    exact rejected ▸ .unread read
  · have classified : tracker.step options number line =
        classify options stripped { tracker with carry, lastLine := number } := by
      simp only [step, read]
    have numbered := Carry.number_strip read
    have readLine := Carry.readLine_of_strip read
    rw [classified]
    rcases seen : classify options stripped { tracker with carry, lastLine := number } with
      ⟨fault | event, next⟩
    · rcases classify_failed seen with
        ⟨cause, misplaced, rfl, rfl⟩ | ⟨cause, levels, refused, rfl, rfl⟩
      · exact numbered ▸ .misplaced readLine misplaced
      · exact numbered ▸ .misindented readLine refused
    · exact .passed readLine (classify_ok seen)

theorem Role.carry_eq {stripped : StrippedLine} {event : Event}
    (role : Role options stripped tracker event next) : next.carry = tracker.carry := by
  cases role <;> rfl

/-- A line is rejected while it is read, or it is read and leaves what reading it leaves. -/
theorem Stepped.read (stepped : Stepped options number line tracker (result, next)) :
    (∃ fault, result = .error fault ∧
        tracker.carry.strip options.tail number line = (.error fault, next.carry)) ∨
      ∃ reading, tracker.carry.readLine options.tail number line = .ok reading ∧
        next.carry = reading.after ∧ ∀ found, result ≠ .error ⟨found, .unterminatedString⟩ := by
  cases stepped with
  | unread failed => exact .inl ⟨_, rfl, failed⟩
  | passed read role => exact .inr ⟨_, read, role.carry_eq, by simp⟩
  | misplaced read misplaced =>
    refine .inr ⟨_, read, rfl, ?_⟩
    have placed := StrippedLine.isMisplacement_misplacedComment? misplaced
    rintro found same
    cases same
    simp [Cause.isMisplacement] at placed
  | misindented read refused =>
    refine .inr ⟨_, read, rfl, ?_⟩
    rintro found same
    cases same
    rcases Levels.observe_error refused with other | other <;> simp at other

/-- A line leaves a string open just when it is rejected for it. -/
theorem Stepped.mode_eq_string_iff (stepped : Stepped options number line tracker (result, next)) :
    next.carry.mode = .string ↔ ∃ found, result = .error ⟨found, .unterminatedString⟩ := by
  rcases stepped.read with ⟨fault, rfl, failed⟩ | ⟨reading, read, carried, other⟩
  · rcases Carry.strip_failed failed with ⟨rfl, closed⟩ | ⟨rfl, string⟩
    · simp [closed]
    · simp [string]
  · obtain ⟨-, -, closed, mode, -⟩ := Carry.readLine_ok read
    have between := Mode.IsBetween.afterLine closed
    rw [← mode, ← carried] at between
    refine iff_of_false (fun string => ?_) (not_exists.mpr other)
    simp [string, Mode.IsBetween, Mode.inBlockComment] at between

theorem Stepped.mode_ne_lineComment
    (stepped : Stepped options number line tracker (result, next)) :
    next.carry.mode ≠ .lineComment := by
  rcases stepped.read with ⟨fault, rfl, failed⟩ | ⟨reading, read, carried, -⟩
  · rcases Carry.strip_failed failed with ⟨-, closed⟩ | ⟨-, string⟩
    · simp [closed]
    · simp [string]
  · obtain ⟨-, -, closed, mode, -⟩ := Carry.readLine_ok read
    rw [carried, mode]
    cases reading.marking.mode <;> simp [Mode.afterLine]

/-- A block comment that a line leaves open was open before, or is opened in the line. -/
theorem Stepped.opened (stepped : Stepped options number line tracker (result, next))
    (inside : next.carry.mode = .blockComment openedAt) :
    tracker.carry.mode = .blockComment openedAt ∨
      openedAt = number ∧
        (Marking.read number tracker.carry.mode (Lexeme.ofLine line.toList)).Opens := by
  rcases stepped.read with ⟨fault, rfl, failed⟩ | ⟨reading, read, carried, -⟩
  · rcases Carry.strip_failed failed with ⟨-, closed⟩ | ⟨-, string⟩
    · simp [closed] at inside
    · simp [string] at inside
  · obtain ⟨marking, -, -, mode, -⟩ := Carry.readLine_ok read
    rw [carried, mode, Mode.afterLine_eq_blockComment_iff, marking] at inside
    rcases Marking.read_of_open inside with ⟨before, -⟩ | opens
    · exact .inl before
    · exact .inr opens

end Step

section Calls

variable {options : Options} {tracker : Tracker} {records : List Record} {call : Call}

theorem carry_finish (tracker : Tracker) : tracker.finish.2.carry = tracker.carry := by
  unfold finish
  split <;> rfl

@[simp] theorem Reply.ofRole_eq_refusal_iff {result : Except Fault Event} :
    ofRole result = .refusal fault ↔ result = .error fault := by
  cases result <;> simp [ofRole]

@[simp] theorem Reply.ofRole_eq_role_iff {result : Except Fault Event} :
    ofRole result = .role event ↔ result = .ok event := by
  cases result <;> simp [ofRole]

@[simp] theorem Reply.ofEnd_eq_refusal_iff {result : Except Fault Nat} :
    ofEnd result = .refusal fault ↔ result = .error fault := by
  cases result <;> simp [ofEnd]

@[simp] theorem Reply.ofEnd_ne_role (result : Except Fault Nat) (event : Event) :
    ofEnd result ≠ .role event := by
  cases result <;> simp [ofEnd]

theorem record_step (options : Options) (tracker : Tracker) (number : Nat) (line : String) :
    ∃ result after, Stepped options number line tracker (result, after) ∧
      tracker.record options (.step number line) =
        ⟨tracker, .step number line, .ofRole result, after⟩ :=
  ⟨_, _, stepped_step options number line tracker, rfl⟩

theorem history_concat (options : Options) (tracker : Tracker) (calls : List Call) (call : Call) :
    history options tracker (calls ++ [call]) =
      history options tracker calls ++ [(afterCalls options tracker calls).record options call] := by
  induction calls generalizing tracker with
  | nil => rfl
  | cons first calls ih => exact congrArg (_ :: ·) (ih _)

theorem afterCalls_concat (options : Options) (tracker : Tracker) (calls : List Call) (call : Call) :
    afterCalls options tracker (calls ++ [call]) =
      ((afterCalls options tracker calls).record options call).after := by
  rw [afterCalls, List.foldl_append]
  rfl

theorem lastReply?_concat (records : List Record) (record : Record) :
    lastReply? (records ++ [record]) =
      if record.call.isStep then some record.reply else lastReply? records := by
  cases step : record.call.isStep <;> simp [lastReply?, List.filter_append, step]

theorem Record.sound_of_refusal {before after : Tracker} {number : Nat} {line : String}
    {fault : Fault}
    (malformed : fault.cause.kind = .malformed → after.levels = before.levels)
    (misindented : fault.cause.kind = .misindented →
      ∃ width, before.levels.observe width = (.error fault.cause, after.levels)) :
    (⟨before, .step number line, .refusal fault, after⟩ : Record).Sound := by
  refine ⟨by simp, by simp, by simp, ?_, by simp⟩
  rintro _ _ found - same
  cases same
  exact ⟨malformed, misindented⟩

/-- Every call keeps to what it may touch. -/
theorem sound_record (options : Options) (tracker : Tracker) (call : Call) :
    (tracker.record options call).Sound := by
  cases call with
  | finish =>
    refine ⟨by simp [record], by simp [record], by simp [record], by simp [record], fun _ => ?_⟩
    refine ⟨carry_finish tracker, fun fault refused => ?_⟩
    have failed := Reply.ofEnd_eq_refusal_iff.mp refused
    have kept : tracker.finish.2 = tracker := by
      unfold finish at failed ⊢
      split at failed
      · rfl
      · simp at failed
    exact congrArg levels kept
  | step number line =>
    obtain ⟨result, after, stepped, same⟩ := tracker.record_step options number line
    rw [same]
    cases stepped with
    | unread failed =>
      refine Record.sound_of_refusal (fun _ => rfl) fun misindented => ?_
      rcases (Carry.strip_error failed).2 with cause | cause <;>
        simp [cause, Cause.kind] at misindented
    | passed read role =>
      cases role with
      | blank empty =>
        refine ⟨?_, by simp, by simp, by simp, by simp⟩
        exact fun _ _ => ⟨congrArg Nesting.mk (depth_of_isEmpty read empty), rfl⟩
      | nested filled inside =>
        refine ⟨by simp, ?_, by simp, by simp, by simp⟩
        exact fun _ _ => rfl
      | content filled outside placed observed =>
        refine ⟨by simp, by simp, ?_, by simp, by simp⟩
        rintro text shift same
        cases same
        exact observed
    | misplaced read misplaced =>
      refine Record.sound_of_refusal (fun _ => rfl) fun misindented => ?_
      have placed := StrippedLine.isMisplacement_misplacedComment? misplaced
      have malformed := Cause.kind_of_isMisplacement placed
      simp [malformed] at misindented
    | misindented read refused =>
      refine Record.sound_of_refusal (fun malformed => ?_) fun _ => ⟨_, refused⟩
      rcases Levels.observe_error refused with rfl | rfl <;> simp [Cause.kind] at malformed

theorem Consistent.concat (consistent : Consistent records tracker) (options : Options)
    (call : Call) :
    Consistent (records ++ [tracker.record options call]) (tracker.record options call).after := by
  cases call with
  | finish =>
    have carried : (tracker.record options .finish).after.carry = tracker.carry :=
      carry_finish tracker
    refine ⟨carried ▸ consistent.uncut, ?_, ?_⟩
    · rw [carried, lastReply?_concat]
      exact consistent.string_iff
    · rw [carried]
      intro openedAt inside
      obtain ⟨record, member, opened⟩ := consistent.opened openedAt inside
      exact ⟨record, List.mem_append_left _ member, opened⟩
  | step number line =>
    obtain ⟨result, after, stepped, same⟩ := tracker.record_step options number line
    rw [same]
    refine ⟨stepped.mode_ne_lineComment, ?_, ?_⟩
    · rw [stepped.mode_eq_string_iff, lastReply?_concat]
      simp [Call.isStep]
    · intro openedAt inside
      rcases stepped.opened inside with before | ⟨rfl, opens⟩
      · obtain ⟨record, member, opened⟩ := consistent.opened openedAt before
        exact ⟨record, List.mem_append_left _ member, opened⟩
      · exact ⟨_, List.mem_append_right _ (List.mem_singleton_self _), line, rfl, opens⟩

theorem consistent_fresh : Consistent [] {} :=
  ⟨by simp, by simp [lastReply?], by simp⟩

theorem consistent_history (options : Options) (calls : List Call) :
    Consistent (history options {} calls) (afterCalls options {} calls) := by
  induction calls using List.reverseRecOn with
  | nil => exact consistent_fresh
  | append_singleton calls call ih =>
    rw [history_concat, afterCalls_concat]
    exact ih.concat options call

theorem sound_history (options : Options) (tracker : Tracker) (calls : List Call) :
    ∀ record ∈ history options tracker calls, record.Sound := by
  induction calls generalizing tracker with
  | nil => simp [history]
  | cons call calls ih => exact List.forall_mem_cons.mpr ⟨sound_record options tracker call, ih _⟩

theorem write_ofCarry (options : Options) (tracker : Tracker) (call : Call) :
    call.write (.ofCarry tracker.carry) = .ofCarry (tracker.record options call).after.carry := by
  cases call with
  | finish => exact congrArg Registers.ofCarry (carry_finish tracker).symm
  | step number line =>
    have carried : (tracker.record options (.step number line)).after.carry = _ :=
      carry_step options number line tracker
    rw [carried, Call.write, Registers.readLine_ofCarry options.tail]
    rcases tracker.carry.strip options.tail number line with ⟨fault | stripped, after⟩ <;> rfl

/-- The registers show what the tracker carries from line to line, however it is used. -/
theorem registersBehind_eq (options : Options) (calls : List Call) :
    registersBehind calls = .ofCarry (afterCalls options {} calls).carry := by
  induction calls using List.reverseRecOn with
  | nil => rfl
  | append_singleton calls call ih =>
    rw [registersBehind] at ih
    rw [afterCalls_concat, registersBehind, List.foldl_append, ih]
    exact write_ofCarry options _ call

example : registersBehind [.step 7 "a /* b", .finish, .step 3 "c */ \"d", .finish] =
    { place := .string } := by decide +kernel

end Calls

/-- However a tracker is used, from the first call on and also behind calls that failed. Registers
that are written one by one show the same as it does. Between calls they are never in a line comment;
they are in a string just when the last line was rejected because a string was left open; they hold a
line on which a comment was opened just when they are in a block comment, and it is the number of a
line that was read and opens it. And no call touches more than it has to. -/
theorem consistent_in_any_use (options : Options) (calls : List Call) :
    let records := history options {} calls
    let tracker := afterCalls options {} calls
    let registers := registersBehind calls
    registers = .ofCarry tracker.carry ∧
    registers.place ≠ .lineComment ∧
    (registers.place = .string ↔
      ∃ number, lastReply? records = some (.refusal ⟨number, .unterminatedString⟩)) ∧
    (registers.openedAt?.isSome ↔ registers.place = .blockComment) ∧
    (∀ openedAt, registers.openedAt? = some openedAt →
      ∃ record ∈ records, record.Opens openedAt) ∧
    ∀ record ∈ records, record.Sound := by
  intro records tracker registers
  have same : registers = .ofCarry tracker.carry := registersBehind_eq options calls
  have consistent : Consistent records tracker := consistent_history options calls
  rw [same]
  refine ⟨rfl, ?_, ?_, Mode.isSome_openedAt?_iff, ?_, sound_history options {} calls⟩
  · exact mt Mode.place_eq_lineComment_iff.mp consistent.uncut
  · exact Mode.place_eq_string_iff.trans consistent.string_iff
  · intro openedAt opened
    exact consistent.opened openedAt (Mode.openedAt?_eq_some_iff.mp opened)

end Offside.Tracker
