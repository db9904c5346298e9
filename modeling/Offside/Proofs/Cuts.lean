import Mathlib.Data.List.Chain
import Offside.Proofs.Redaction

/-! Ways to cut a line into pieces. There is one cut into characters that stand alone and runs that
do not go on behind their piece, and it is the one that always takes the longest piece
(`Lexeme.slices_longest`). So two texts can be cut on their own: at most the run at the seam grows
together. -/

namespace Offside.Lexeme

inductive Kind where
  | quote
  | backslash
  | slash
  | star
  | openBrace
  | closeBrace
  | space
  | text
deriving DecidableEq, Repr

namespace Kind

/-- The characters that a piece of the kind consists of. -/
def Holds : Kind → Char → Prop
  | quote, c => c = '"'
  | backslash, c => c = '\\'
  | slash, c => c = '/'
  | star, c => c = '*'
  | openBrace, c => c = '{'
  | closeBrace, c => c = '}'
  | space, c => IsGap c
  | text, c => JoinsRun c ∧ ¬IsGap c

/-- Any number of characters can stand together in a piece of the kind. -/
def isRun : Kind → Bool
  | space | text => true
  | _ => false

/-- The texts of the kind: one of its characters, or as many as there are in a run. -/
structure Matches (kind : Kind) (chars : List Char) : Prop where
  ne_nil : chars ≠ []
  holds : ∀ c ∈ chars, kind.Holds c
  alone : kind.isRun = false → chars.length = 1

end Kind

/-- The kind of a piece, and its characters. -/
abbrev Slice := Kind × List Char

def kind : Lexeme → Kind
  | quote => .quote
  | backslash => .backslash
  | slash => .slash
  | star => .star
  | openBrace => .openBrace
  | closeBrace => .closeBrace
  | space _ => .space
  | text _ => .text

def slice (lexeme : Lexeme) : Slice :=
  (lexeme.kind, lexeme.chars)

def slices (line : List Char) : List Slice :=
  (ofLine line).map slice

/-- A run of the one piece goes on in the other. -/
def Joins (first second : Slice) : Prop :=
  first.1.isRun = true ∧ first.1 = second.1

instance (first second : Slice) : Decidable (Joins first second) :=
  inferInstanceAs (Decidable (_ ∧ _))

/-- The pieces make up the line, each is a text of its kind, and no run is cut in two. -/
structure IsCut (line : List Char) (pieces : List Slice) : Prop where
  joined : pieces.flatMap Prod.snd = line
  fits : ∀ piece ∈ pieces, piece.1.Matches piece.2
  apart : pieces.IsChain (¬Joins · ·)

/-- Of all texts that stand at the front of the line and are of some kind, the longest is cut off,
until nothing is left. -/
inductive Munched : List Char → List Slice → Prop where
  | done : Munched [] []
  | cut {kind : Kind} {line chars rest : List Char} {pieces : List Slice}
      (split : line = chars ++ rest) (fits : kind.Matches chars)
      (longest : ∀ (other : Kind) found, other.Matches found → found <+: line →
        found.length ≤ chars.length)
      (behind : Munched rest pieces) : Munched line ((kind, chars) :: pieces)

/-- Puts pieces behind others. A run at the seam grows together. -/
def seam : List Slice → List Slice → List Slice
  | [], back => back
  | [piece], [] => [piece]
  | [piece], other :: back =>
    if Joins piece other then (piece.1, piece.2 ++ other.2) :: back else piece :: other :: back
  | piece :: next :: front, back => piece :: seam (next :: front) back

namespace Kind

variable {kind other : Kind} {c : Char} {chars run : List Char}

theorem Holds.unique (here : kind.Holds c) (there : other.Holds c) : kind = other := by
  cases kind <;> cases other <;> simp_all [Holds, IsGap, JoinsRun]

theorem matches_singleton (holds : kind.Holds c) : kind.Matches [c] :=
  ⟨by simp, by simpa using holds, by simp⟩

/-- Texts that start alike and are of a kind are of the same kind. -/
theorem Matches.unique {more : List Char} (here : kind.Matches (c :: chars))
    (there : other.Matches (c :: more)) : kind = other :=
  (here.holds c (by simp)).unique (there.holds c (by simp))

theorem Matches.append (here : kind.Matches chars) (there : kind.Matches run)
    (grows : kind.isRun = true) : kind.Matches (chars ++ run) where
  ne_nil := by simp [here.ne_nil]
  holds := List.forall_mem_append.mpr ⟨here.holds, there.holds⟩
  alone single := by simp [grows] at single

end Kind

section Seam

variable {piece : Slice} {front back pieces others : List Slice} {line more : List Char}

theorem flatMap_seam (front back : List Slice) :
    (seam front back).flatMap Prod.snd = front.flatMap Prod.snd ++ back.flatMap Prod.snd := by
  fun_induction seam front back with
  | case5 piece next front back ih => simpa using ih
  | _ => simp

theorem seam_of_apart (apart : ∀ other ∈ back.head?, ¬Joins piece other) :
    seam [piece] back = piece :: back := by
  cases back with
  | nil => rfl
  | cons other back => rw [seam, if_neg (apart other rfl)]

theorem seam_of_alone (single : piece.1.isRun = false) : seam [piece] back = piece :: back :=
  seam_of_apart fun _ _ joins => Bool.false_ne_true (single.symm.trans joins.1)

/-- The first piece can grow, and stays of its kind. -/
theorem head_seam (piece : Slice) (front back : List Slice) :
    ∃ chars behind, seam (piece :: front) back = (piece.1, chars) :: behind := by
  cases front with
  | cons next front => exact ⟨_, _, rfl⟩
  | nil =>
    cases back with
    | nil => exact ⟨_, _, rfl⟩
    | cons other back =>
      by_cases joins : Joins piece other
      · exact ⟨_, _, by rw [seam, if_pos joins]⟩
      · exact ⟨_, _, by rw [seam, if_neg joins]⟩

theorem fits_seam (here : ∀ piece ∈ front, piece.1.Matches piece.2)
    (there : ∀ piece ∈ back, piece.1.Matches piece.2) :
    ∀ piece ∈ seam front back, piece.1.Matches piece.2 := by
  fun_induction seam front back with
  | case1 back => exact there
  | case2 piece => exact here
  | case3 piece other back joins =>
    obtain ⟨next, behind⟩ := List.forall_mem_cons.mp there
    have own := here piece (by simp)
    exact List.forall_mem_cons.mpr ⟨own.append (joins.2 ▸ next) joins.1, behind⟩
  | case4 piece other back apart =>
    exact List.forall_mem_cons.mpr ⟨here piece (by simp), there⟩
  | case5 piece next front back ih =>
    obtain ⟨own, rest⟩ := List.forall_mem_cons.mp here
    exact List.forall_mem_cons.mpr ⟨own, ih rest there⟩

theorem apart_seam (here : front.IsChain (¬Joins · ·)) (there : back.IsChain (¬Joins · ·)) :
    (seam front back).IsChain (¬Joins · ·) := by
  fun_induction seam front back with
  | case1 back => exact there
  | case2 piece => exact here
  | case3 piece other back joins =>
    -- The piece that grew joins what is behind it no more than the piece it took in.
    obtain ⟨next, behind⟩ := List.isChain_cons.mp there
    refine List.isChain_cons.mpr ⟨fun follower first => ?_, behind⟩
    have apart := next follower first
    rwa [Joins, ← joins.2] at apart
  | case4 piece other back apart => exact List.isChain_cons_cons.mpr ⟨apart, there⟩
  | case5 piece next front back ih =>
    obtain ⟨apart, rest⟩ := List.isChain_cons_cons.mp here
    obtain ⟨chars, behind, same⟩ := head_seam next front back
    have tail := ih rest there
    rw [same] at tail ⊢
    exact List.isChain_cons_cons.mpr ⟨apart, tail⟩

theorem IsCut.seam (here : IsCut line pieces) (there : IsCut more others) :
    IsCut (line ++ more) (seam pieces others) where
  joined := by rw [flatMap_seam, here.joined, there.joined]
  fits := fits_seam here.fits there.fits
  apart := apart_seam here.apart there.apart

theorem isCut_singleton {kind : Kind} {c : Char} (holds : kind.Holds c) :
    IsCut [c] [(kind, [c])] where
  joined := rfl
  fits := by simpa using Kind.matches_singleton holds
  apart := .singleton _

end Seam

section Existence

theorem seam_of_kind_ne {kind : Kind} {chars : List Char} {lexemes : List Lexeme}
    (differ : ∀ lexeme ∈ lexemes.head?, lexeme.kind ≠ kind) :
    seam [(kind, chars)] (lexemes.map slice) = (kind, chars) :: lexemes.map slice := by
  refine seam_of_apart fun other first joins => ?_
  rw [List.head?_map] at first
  obtain ⟨lexeme, here, rfl⟩ := Option.map_eq_some_iff.mp first
  exact differ lexeme here joins.2.symm

/-- A character in front of pieces is a piece of its own, or joins the run that comes first. -/
theorem map_slice_cons (c : Char) (lexemes : List Lexeme) :
    ∃ kind : Kind, kind.Holds c ∧
      (cons c lexemes).map slice = seam [(kind, [c])] (lexemes.map slice) := by
  by_cases joins : JoinsRun c
  · have special := joins
    simp only [JoinsRun, List.mem_cons, List.not_mem_nil, or_false, not_or] at special
    fun_cases cons c lexemes with
    | case7 _ _ _ _ _ _ gap run rest => exact ⟨.space, gap, rfl⟩
    | case8 _ _ _ _ _ _ gap _ noRun =>
      refine ⟨.space, gap, (seam_of_kind_ne fun lexeme first => ?_).symm⟩
      obtain ⟨rest, rfl⟩ := List.head?_eq_some_iff.mp first
      cases lexeme with
      | space run => exact (noRun run rest rfl).elim
      | _ => simp [kind]
    | case9 _ _ _ _ _ _ noGap run rest => exact ⟨.text, ⟨joins, noGap⟩, rfl⟩
    | case10 _ _ _ _ _ _ noGap _ noRun =>
      refine ⟨.text, ⟨joins, noGap⟩, (seam_of_kind_ne fun lexeme first => ?_).symm⟩
      obtain ⟨rest, rfl⟩ := List.head?_eq_some_iff.mp first
      cases lexeme with
      | text run => exact (noRun run rest rfl).elim
      | _ => simp [kind]
    | _ => simp_all
  · rcases not_joinsRun joins with rfl | rfl | rfl | rfl | rfl | rfl
    · exact ⟨.quote, rfl, (seam_of_alone rfl).symm⟩
    · exact ⟨.backslash, rfl, (seam_of_alone rfl).symm⟩
    · exact ⟨.slash, rfl, (seam_of_alone rfl).symm⟩
    · exact ⟨.star, rfl, (seam_of_alone rfl).symm⟩
    · exact ⟨.openBrace, rfl, (seam_of_alone rfl).symm⟩
    · exact ⟨.closeBrace, rfl, (seam_of_alone rfl).symm⟩

theorem isCut_slices (line : List Char) : IsCut line (slices line) := by
  induction line with
  | nil => exact ⟨rfl, by simp [slices, ofLine], .nil⟩
  | cons c line ih =>
    obtain ⟨kind, holds, same⟩ := map_slice_cons c (ofLine line)
    have grown := (isCut_singleton holds).seam ih
    rwa [slices, ← same] at grown

end Existence

section Uniqueness

variable {line : List Char} {pieces others : List Slice}

/-- A run that is not cut in two is as long as it can be. -/
theorem length_le_of_apart {kind other : Kind} {chars found : List Char}
    (fits : kind.Matches chars) (apart : ∀ piece ∈ pieces.head?, ¬Joins (kind, chars) piece)
    (behind : ∀ piece ∈ pieces, piece.1.Matches piece.2) (fitsToo : other.Matches found)
    (front : found <+: chars ++ pieces.flatMap Prod.snd) : found.length ≤ chars.length := by
  by_contra longer
  have within : chars <+: found :=
    List.prefix_of_prefix_length_le (List.prefix_append _ _) front (by omega)
  obtain ⟨extra, rfl⟩ := within
  obtain ⟨c, run, rfl⟩ := List.exists_cons_of_ne_nil fits.ne_nil
  obtain rfl := fits.unique fitsToo
  cases extra with
  | nil => simp at longer
  | cons d extra =>
    have grows : kind.isRun = true := by
      by_contra single
      simpa using fitsToo.alone (by simpa using single)
    have ahead := (List.prefix_append_right_inj _).mp front
    cases pieces with
    | nil => simp at ahead
    | cons piece pieces =>
      -- The text goes on with the first character of the next piece, which is of another kind.
      have next := behind piece (by simp)
      obtain ⟨e, more, split⟩ := List.exists_cons_of_ne_nil next.ne_nil
      rw [List.flatMap_cons, split, List.cons_append, List.cons_prefix_cons] at ahead
      obtain ⟨rfl, -⟩ := ahead
      have own : kind.Holds d := fitsToo.holds d (by simp)
      exact apart piece rfl ⟨grows, own.unique (next.holds d (by simp [split]))⟩

/-- Where no run is cut in two, the longest piece is always taken. -/
theorem IsCut.munched (cut : IsCut line pieces) : Munched line pieces := by
  induction pieces generalizing line with
  | nil =>
    obtain rfl : [] = line := cut.joined
    exact .done
  | cons piece pieces ih =>
    obtain ⟨fits, behind⟩ := List.forall_mem_cons.mp cut.fits
    obtain ⟨apart, chain⟩ := List.isChain_cons.mp cut.apart
    have split : line = piece.2 ++ pieces.flatMap Prod.snd := cut.joined.symm
    refine .cut split fits (fun other found fitsToo front => ?_) (ih ⟨rfl, behind, chain⟩)
    exact length_le_of_apart fits apart behind fitsToo (split ▸ front)

/-- The longest piece is one piece. -/
theorem Munched.unique (here : Munched line pieces) (there : Munched line others) :
    pieces = others := by
  induction here generalizing others with
  | done =>
    cases there with
    | done => rfl
    | cut split fits => exact absurd (List.append_eq_nil_iff.mp split.symm).1 fits.ne_nil
  | @cut kind line chars rest pieces split fits longest behind ih =>
    cases there with
    | done => exact absurd (List.append_eq_nil_iff.mp split.symm).1 fits.ne_nil
    | @cut other _ found tail others splitToo fitsToo longestToo behindToo =>
      have length : chars.length = found.length :=
        Nat.le_antisymm (longestToo kind chars fits ⟨rest, split.symm⟩)
          (longest other found fitsToo ⟨tail, splitToo.symm⟩)
      obtain ⟨rfl, rfl⟩ := List.append_inj (split.symm.trans splitToo) length
      obtain ⟨c, run, rfl⟩ := List.exists_cons_of_ne_nil fits.ne_nil
      rw [fits.unique fitsToo, ih behindToo]

theorem isCut_iff : IsCut line pieces ↔ pieces = slices line := by
  constructor
  · exact fun cut => cut.munched.unique (isCut_slices line).munched
  · rintro rfl
    exact isCut_slices line

theorem munched_iff : Munched line pieces ↔ pieces = slices line := by
  constructor
  · exact fun munched => munched.unique (isCut_slices line).munched
  · rintro rfl
    exact (isCut_slices line).munched

end Uniqueness

/-- A line has exactly one cut into non-empty pieces of which each is a single special character, a
run of spaces and tabs or a run of other characters, with no run cut in two. It is the cut that takes
the longest piece every time. A text behind another is cut on its own, except that the run behind
which it stands grows together with one of its kind. -/
theorem slices_longest (line : List Char) :
    (∀ pieces, IsCut line pieces ↔ pieces = slices line) ∧
    (∀ pieces, Munched line pieces ↔ pieces = slices line) ∧
    ∀ more, slices (line ++ more) = seam (slices line) (slices more) :=
  ⟨fun _ => isCut_iff, fun _ => munched_iff, fun more =>
    (isCut_iff.mp ((isCut_slices line).seam (isCut_slices more))).symm⟩

example : seam (slices "a b ".toList) (slices "\t*/".toList) =
    [(.text, ['a']), (.space, [' ']), (.text, ['b']), (.space, [' ', '\t']), (.star, ['*']),
      (.slash, ['/'])] := by
  decide

end Offside.Lexeme
