import Offside.Text.Blank

/-! Statements written with braces: a list is statements separated by semicolons, a statement is a
text and, in braces, the list of the statements inside of it. Blanks before a text do not count.
The reader is tied to the written form by `read?_write`. -/

namespace Offside

/-- Statements: the first one, the statements inside of it, and the statements that follow it. -/
inductive Forest where
  | nil
  | cons (text : List Char) (children siblings : Forest)
deriving DecidableEq, Repr

namespace BraceSyntax

/-- A character that ends the text of a statement. -/
def isMark (c : Char) : Bool :=
  c == '{' || c == '}' || c == ';'

/-- The list in braces, if there is one; without it no statements are inside. -/
def readBlock (readList : List Char → Option (Forest × List Char)) :
    List Char → Option (Forest × List Char)
  | '{' :: rest =>
    match readList rest with
    | some (children, '}' :: rest) => some (children, rest)
    | _ => none
  | rest => some (.nil, rest)

/-- A list with at most `fuel` statements in each other and after each other, and the rest of the
text. -/
def readList : (fuel : Nat) → List Char → Option (Forest × List Char)
  | 0, _ => none
  | fuel + 1, input =>
    let text := (input.takeWhile fun c => !isMark c).dropWhile isBlank
    if text.isEmpty then none
    else
      match readBlock (readList fuel) (input.dropWhile fun c => !isMark c) with
      | none => none
      | some (children, ';' :: rest) =>
        match readList fuel rest with
        | none => none
        | some (siblings, rest) => some (.cons text children siblings, rest)
      | some (children, rest) => some (.cons text children .nil, rest)

/-- The statements of a text that is one list. A list has fewer statements than characters. -/
def read? (input : List Char) : Option Forest :=
  match readList (input.length + 1) input with
  | some (statements, []) => some statements
  | _ => none

end BraceSyntax

/-- Statements with blanks before each of them. -/
inductive Outline where
  | nil
  | cons (indent text : List Char) (children siblings : Outline)
deriving DecidableEq, Repr

namespace Outline

def forest : Outline → Forest
  | nil => .nil
  | cons _ text children siblings => .cons text children.forest siblings.forest

def size : Outline → Nat
  | nil => 0
  | cons _ _ children siblings => children.size + siblings.size + 1

def write : Outline → List Char
  | nil => []
  | cons indent text children siblings =>
    let block := match children with
      | nil => []
      | children => '{' :: children.write ++ ['}']
    let more := match siblings with
      | nil => []
      | siblings => ';' :: siblings.write
    indent ++ text ++ block ++ more

/-- What stands behind the text of a statement for the statements inside of it. -/
def writeBlock : Outline → List Char
  | nil => []
  | children => '{' :: children.write ++ ['}']

/-- What stands behind a statement for the statements that follow it. -/
def writeMore : Outline → List Char
  | nil => []
  | siblings => ';' :: siblings.write

theorem write_cons (indent text : List Char) (children siblings : Outline) :
    (cons indent text children siblings).write =
      indent ++ text ++ (children.writeBlock ++ siblings.writeMore) := by
  rw [← List.append_assoc]
  cases children <;> cases siblings <;> rfl

/-- A text that starts with something visible and has no character with a meaning of its own. -/
def PlainText (text : List Char) : Prop :=
  (∃ c rest, text = c :: rest ∧ isBlank c = false) ∧
    ∀ c ∈ text, c ∉ ['"', '\\', '/', '*', '{', '}', ';', '\n']

def Plain : Outline → Prop
  | nil => True
  | cons _ text children siblings => PlainText text ∧ children.Plain ∧ siblings.Plain

/-- Statements of one level stand at one width, and those inside of a statement further right.
Only spaces and tabs stand before a statement. -/
def Laid (width : Nat) : Outline → Prop
  | nil => True
  | cons indent _ children siblings =>
    indent.length = width ∧ (∀ c ∈ indent, c = ' ' ∨ c = '\t') ∧
      (∃ inner, width < inner ∧ children.Laid inner) ∧ siblings.Laid width

end Outline

namespace BraceSyntax

open Outline

theorem isBlank_indent {indent : List Char} (blanks : ∀ c ∈ indent, c = ' ' ∨ c = '\t') :
    ∀ c ∈ indent, isBlank c = true := by
  intro c member
  rcases blanks c member with rfl | rfl <;> decide

theorem not_isMark_indent {indent : List Char} (blanks : ∀ c ∈ indent, c = ' ' ∨ c = '\t') :
    ∀ c ∈ indent, (!isMark c) = true := by
  intro c member
  rcases blanks c member with rfl | rfl <;> decide

theorem not_isMark_text {text : List Char} (plain : PlainText text) :
    ∀ c ∈ text, (!isMark c) = true := by
  intro c member
  have := plain.2 c member
  simp_all [isMark]

/-- The text of a statement ends at the first mark. -/
theorem takeWhile_statement {indent text rest : List Char}
    (blanks : ∀ c ∈ indent, c = ' ' ∨ c = '\t') (plain : PlainText text)
    (mark : ∀ c ∈ rest.head?, isMark c = true) :
    ((indent ++ text ++ rest).takeWhile fun c => !isMark c).dropWhile isBlank = text ∧
      (indent ++ text ++ rest).dropWhile (fun c => !isMark c) = rest := by
  have unmarked : ∀ c ∈ indent ++ text, (!isMark c) = true := by
    intro c member
    rcases List.mem_append.mp member with before | inside
    · exact not_isMark_indent blanks c before
    · exact not_isMark_text plain c inside
  have stop : rest.takeWhile (fun c => !isMark c) = [] ∧ rest.dropWhile (fun c => !isMark c) = rest := by
    cases rest with
    | nil => simp
    | cons c rest => simp [mark c rfl]
  constructor
  · rw [List.takeWhile_append_of_pos unmarked, stop.1, List.append_nil,
      List.dropWhile_append_of_pos (isBlank_indent blanks)]
    obtain ⟨c, rest, rfl, visible⟩ := plain.1
    simp [visible]
  · rw [List.dropWhile_append_of_pos unmarked, stop.2]

theorem readBlock_mark (readList : List Char → Option (Forest × List Char))
    {rest : List Char} (other : ∀ c ∈ rest.head?, c ≠ '{') :
    readBlock readList rest = some (.nil, rest) := by
  unfold readBlock
  split
  · simp at other
  · rfl

/-- The text behind a statement starts with a mark. -/
theorem isMark_head (children siblings : Outline) {rest : List Char}
    (ended : ∀ c ∈ rest.head?, c = '}') :
    ∀ c ∈ (children.writeBlock ++ siblings.writeMore ++ rest).head?, isMark c = true := by
  intro c first
  cases children with
  | cons =>
    obtain rfl : '{' = c := by simpa [writeBlock] using first
    rfl
  | nil =>
    cases siblings with
    | cons =>
      obtain rfl : ';' = c := by simpa [writeBlock, writeMore] using first
      rfl
    | nil =>
      obtain rfl : c = '}' := ended c (by simpa [writeBlock, writeMore] using first)
      rfl

/-- Reading takes back what was written, and leaves what follows the list. -/
theorem readList_write {outline : Outline} {width fuel : Nat} {rest : List Char}
    (present : outline ≠ .nil) (laid : outline.Laid width) (plain : outline.Plain)
    (ended : ∀ c ∈ rest.head?, c = '}') (enough : outline.size ≤ fuel) :
    readList fuel (outline.write ++ rest) = some (outline.forest, rest) := by
  induction outline generalizing width fuel rest with
  | nil => exact absurd rfl present
  | cons indent text children siblings childrenRead siblingsRead =>
    obtain ⟨_, blanks, ⟨inner, _, childrenLaid⟩, siblingsLaid⟩ := laid
    obtain ⟨plainText, childrenPlain, siblingsPlain⟩ := plain
    obtain ⟨fuel, rfl⟩ : ∃ less, fuel = less + 1 := ⟨fuel - 1, by simp only [size] at enough; omega⟩
    simp only [size] at enough
    have block : readBlock (readList fuel) (children.writeBlock ++ siblings.writeMore ++ rest) =
        some (children.forest, siblings.writeMore ++ rest) := by
      cases children with
      | nil =>
        apply readBlock_mark
        intro c first brace
        subst brace
        cases siblings with
        | nil => simpa using ended '{' (by simpa [writeBlock, writeMore] using first)
        | cons => simp [writeBlock, writeMore] at first
      | cons childIndent childText grandchildren others =>
        have read : readList fuel ((cons childIndent childText grandchildren others).write ++
            '}' :: (siblings.writeMore ++ rest)) = some (_, '}' :: (siblings.writeMore ++ rest)) :=
          childrenRead (by simp) childrenLaid childrenPlain (by simp) (by omega)
        simp [writeBlock, readBlock, read]
    have statement := takeWhile_statement blanks plainText (isMark_head children siblings ended)
    have visible : text.isEmpty = false := by
      obtain ⟨c, rest, rfl, _⟩ := plainText.1
      rfl
    rw [write_cons, List.append_assoc, readList]
    simp only [statement.1, statement.2, visible, Bool.false_eq_true, ↓reduceIte, block]
    cases siblings with
    | nil =>
      cases rest with
      | nil => rfl
      | cons c rest =>
        obtain rfl : c = '}' := ended c rfl
        rfl
    | cons nextIndent nextText nephews others =>
      have read : readList fuel ((cons nextIndent nextText nephews others).write ++ rest) =
          some (_, rest) :=
        siblingsRead (by simp) siblingsLaid siblingsPlain ended (by omega)
      simp [writeMore, read, forest]

theorem size_le_length {outline : Outline} (plain : outline.Plain) :
    outline.size ≤ outline.write.length := by
  induction outline with
  | nil => exact Nat.le_refl 0
  | cons indent text children siblings childrenShort siblingsShort =>
    obtain ⟨⟨⟨c, rest, rfl, _⟩, _⟩, childrenPlain, siblingsPlain⟩ := plain
    have inBlock : children.write.length ≤ children.writeBlock.length := by
      cases children with
      | nil => exact Nat.zero_le _
      | cons => simp only [writeBlock, List.length_cons, List.length_append]; omega
    have inMore : siblings.write.length ≤ siblings.writeMore.length := by
      cases siblings with
      | nil => exact Nat.zero_le _
      | cons => exact Nat.le_succ _
    have := childrenShort childrenPlain
    have := siblingsShort siblingsPlain
    simp only [write_cons, size, List.length_append, List.length_cons]
    omega

theorem read?_write {outline : Outline} {width : Nat} (present : outline ≠ .nil)
    (laid : outline.Laid width) (plain : outline.Plain) :
    read? outline.write = some outline.forest := by
  have bound := size_le_length plain
  have read : readList (outline.write.length + 1) (outline.write ++ []) =
      some (outline.forest, []) :=
    readList_write present laid plain (by simp) (by omega)
  rw [List.append_nil] at read
  simp [read?, read]

end BraceSyntax

end Offside
