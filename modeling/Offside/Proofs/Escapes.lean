import Mathlib.Algebra.Group.Nat.Defs
import Mathlib.Data.List.Basic
import Offside.Report.Json
import Offside.Report.Yaml

/-! Lines are told apart by the way they are written. Each escape can be read back, whatever follows
it, so a row of a document determines its line (`Json.prefixed_row`, `Yaml.prefixed_row`). -/

namespace Offside.Report

variable {α : Type} {code : α → List Char}

/-- Whatever follows a code, what it stands for and what follows it can be told. -/
def Prefixed (code : α → List Char) : Prop :=
  ∀ ⦃first second : α⦄ ⦃rest more : List Char⦄,
    code first ++ rest = code second ++ more → first = second ∧ rest = more

/-- The text does not start with a code. -/
def Closes (code : α → List Char) (text : List Char) : Prop :=
  ∀ item rest, code item ++ rest ≠ text

theorem Prefixed.of_read (read : List Char → Option (α × List Char))
    (back : ∀ item rest, read (code item ++ rest) = some (item, rest)) : Prefixed code := by
  intro first second rest more same
  have readSame := congrArg read same
  simpa [back] using readSame

/-- Codes one after the other, with something else behind them, determine what they stand for. -/
theorem Prefixed.flatMap (prefixed : Prefixed code) {items others : List α} {rest more : List Char}
    (closes : Closes code rest) (closesToo : Closes code more)
    (same : items.flatMap code ++ rest = others.flatMap code ++ more) :
    items = others ∧ rest = more := by
  induction items generalizing others with
  | nil =>
    cases others with
    | nil => exact ⟨rfl, same⟩
    | cons other others =>
      rw [List.flatMap_nil, List.nil_append, List.flatMap_cons, List.append_assoc] at same
      exact absurd same.symm (closes other _)
  | cons item items ih =>
    cases others with
    | nil =>
      rw [List.flatMap_nil, List.nil_append, List.flatMap_cons, List.append_assoc] at same
      exact absurd same (closesToo item _)
    | cons other others =>
      simp only [List.flatMap_cons, List.append_assoc] at same
      obtain ⟨rfl, later⟩ := prefixed same
      obtain ⟨rfl, behind⟩ := ih later
      exact ⟨rfl, behind⟩

/-- The text up to the first stop can be told. -/
theorem eq_of_append_stop {first second rest more : List Char} {stop : Char}
    (apart : stop ∉ first) (apartToo : stop ∉ second)
    (same : first ++ stop :: rest = second ++ stop :: more) : first = second ∧ rest = more := by
  rcases List.append_eq_append_iff.mp same with ⟨between, split, behind⟩ | ⟨between, split, behind⟩
  · cases between with
    | nil => simp_all
    | cons c between =>
      obtain ⟨rfl, _⟩ := List.cons.inj behind
      exact absurd (by simp [split]) apartToo
  · cases between with
    | nil => simp_all
    | cons c between =>
      obtain ⟨rfl, _⟩ := List.cons.inj behind
      exact absurd (by simp [split]) apart

section Hexadecimal

/-- What a hexadecimal digit stands for, in either case. -/
def hexValue (c : Char) : Nat :=
  if c.isDigit then c.toNat - '0'.toNat else c.toLower.toNat - 'a'.toNat + 10

def hexRead (digits : List Char) : Nat :=
  digits.foldl (fun n c => 16 * n + hexValue c) 0

theorem hexValue_digitChar {n : Nat} (small : n < 16) : hexValue n.digitChar = n := by
  revert n
  decide

theorem hexValue_toUpper_digitChar {n : Nat} (small : n < 16) :
    hexValue n.digitChar.toUpper = n := by
  revert n
  decide

theorem hexRead_replicate (count : Nat) (digits : List Char) :
    hexRead (List.replicate count '0' ++ digits) = hexRead digits := by
  induction count with
  | zero => rfl
  | succ count ih => exact ih

theorem hexRead_toDigits (n : Nat) : hexRead ((Nat.toDigits 16 n).map Char.toUpper) = n := by
  induction n using Nat.strongRecOn with
  | _ n ih =>
    rw [Nat.toDigits_eq_if (by decide)]
    split
    · rename_i small
      simp [hexRead, hexValue_toUpper_digitChar small]
    · rename_i large
      have high := ih (n / 16) (by omega)
      unfold hexRead at high ⊢
      rw [List.map_append, List.foldl_append, high]
      simp only [List.map_cons, List.map_nil, List.foldl_cons, List.foldl_nil,
        hexValue_toUpper_digitChar (Nat.mod_lt n (by decide : 0 < 16))]
      omega

end Hexadecimal

namespace Json

/-- Reads one character of a string. -/
def readChar : List Char → Option (Char × List Char)
  | '\\' :: 'u' :: rest => some (Char.ofNat (hexRead (rest.take 4)), rest.drop 4)
  | '\\' :: mark :: rest =>
    match mark with
    | 'b' => some ('\x08', rest)
    | 'f' => some ('\x0c', rest)
    | 'n' => some ('\n', rest)
    | 'r' => some ('\r', rest)
    | 't' => some ('\t', rest)
    | mark => some (mark, rest)
  | c :: rest => some (c, rest)
  | [] => none

theorem readChar_of_ne {c : Char} (rest : List Char) (plain : c ≠ '\\') :
    readChar (c :: rest) = some (c, rest) := by
  unfold readChar
  split <;> simp_all

theorem readChar_stringChar (c : Char) (rest : List Char) :
    readChar (stringChar c ++ rest) = some (c, rest) := by
  unfold stringChar
  split <;> try rfl
  rename_i noQuote noBackslash _ _ _ _ _
  split
  · rename_i control
    have small : c.toNat / 16 < 16 := by omega
    have value : hexRead ('0' :: '0' :: hexPair c.toNat) = c.toNat := by
      have zero : hexValue '0' = 0 := rfl
      simp only [hexRead, hexPair, List.foldl_cons, List.foldl_nil, zero, hexValue_digitChar small,
        hexValue_digitChar (Nat.mod_lt c.toNat (by decide : 0 < 16))]
      omega
    have read : readChar (['\\', 'u', '0', '0'] ++ hexPair c.toNat ++ rest) =
        some (Char.ofNat (hexRead ('0' :: '0' :: hexPair c.toNat)), rest) := rfl
    rw [read, value, Char.ofNat_toNat]
  · exact readChar_of_ne rest noBackslash

theorem prefixed_stringChar : Prefixed stringChar :=
  .of_read readChar readChar_stringChar

/-- The quote at the end of a string is no character of it. -/
theorem closes_quote (rest : List Char) : Closes stringChar ('"' :: rest) := by
  intro c more same
  unfold stringChar at same
  split at same <;> try simp at same
  rename_i noQuote _ _ _ _ _ _
  split at same <;> simp_all

/-- The row of a line in a list. -/
def row (line : String) : List Char :=
  "    ".toList ++ (string line).toList

theorem prefixed_row : Prefixed row := by
  intro first second rest more same
  simp only [row, string, String.toList_ofList, List.cons_append, List.append_assoc,
    List.append_cancel_left_eq, List.cons.injEq, true_and] at same
  obtain ⟨chars, behind⟩ := prefixed_stringChar.flatMap (closes_quote _) (closes_quote _) same
  exact ⟨String.toList_inj.mp chars, by simpa using behind⟩

end Json

namespace Yaml

/-- The character that a mark behind a backslash stands for. -/
def named : Char → Char
  | '0' => '\x00'
  | 'a' => '\x07'
  | 'b' => '\x08'
  | 't' => '\t'
  | 'n' => '\n'
  | 'v' => '\x0b'
  | 'f' => '\x0c'
  | 'r' => '\r'
  | 'e' => '\x1b'
  | 'N' => '\u0085'
  | 'L' => '\u2028'
  | 'P' => '\u2029'
  | mark => mark

/-- Reads one character of a text between double quotes. -/
def readChar : List Char → Option (Char × List Char)
  | '\\' :: mark :: rest =>
    match mark with
    | 'x' => some (Char.ofNat (hexRead (rest.take 2)), rest.drop 2)
    | 'u' => some (Char.ofNat (hexRead (rest.take 4)), rest.drop 4)
    | 'U' => some (Char.ofNat (hexRead (rest.take 8)), rest.drop 8)
    | mark => some (named mark, rest)
  | c :: rest => some (c, rest)
  | [] => none

theorem readChar_of_ne {c : Char} (rest : List Char) (plain : c ≠ '\\') :
    readChar (c :: rest) = some (c, rest) := by
  unfold readChar
  split <;> simp_all

theorem hexRead_hex (width n : Nat) : hexRead (hex width n) = n := by
  rw [hex, hexRead_replicate, hexRead_toDigits]

theorem length_hex {width n : Nat} (some : 0 < width) (small : n < 16 ^ width) :
    (hex width n).length = width := by
  have short := (Nat.length_toDigits_le_iff (by decide) some).mpr small
  simp only [hex, List.length_append, List.length_replicate, List.length_map]
  omega

theorem readChar_escaped (c : Char) (rest : List Char) :
    readChar (escaped c ++ rest) = some (c, rest) := by
  unfold escaped
  split
  · rename_i direct
    simp only [Bool.and_eq_true, bne_iff_ne, ne_eq] at direct
    exact readChar_of_ne rest direct.2
  split <;> try rfl
  have front {width : Nat} (some : 0 < width) (small : c.toNat < 16 ^ width) :
      Char.ofNat (hexRead ((hex width c.toNat ++ rest).take width)) = c ∧
        (hex width c.toNat ++ rest).drop width = rest := by
    have length := length_hex some small
    rw [List.take_left' length, List.drop_left' length, hexRead_hex, Char.ofNat_toNat]
    exact ⟨rfl, rfl⟩
  have read {mark : Char} {width : Nat} (some : 0 < width) (small : c.toNat < 16 ^ width)
      (marked : readChar ('\\' :: mark :: (hex width c.toNat ++ rest)) =
        .some (Char.ofNat (hexRead ((hex width c.toNat ++ rest).take width)),
          (hex width c.toNat ++ rest).drop width)) :
      readChar (['\\', mark] ++ hex width c.toNat ++ rest) = .some (c, rest) := by
    obtain ⟨value, behind⟩ := front some small
    rw [value, behind] at marked
    exact marked
  split
  · exact read (by decide) (by omega) rfl
  split
  · exact read (by decide) (by omega) rfl
  · exact read (by decide) c.val.toNat_lt rfl

theorem prefixed_escaped : Prefixed escaped :=
  .of_read readChar readChar_escaped

theorem closes_quote (rest : List Char) : Closes escaped ('"' :: rest) := by
  intro c more same
  unfold escaped at same
  split at same
  · simp_all
  split at same <;> try simp at same
  split at same <;> try simp at same
  split at same <;> simp at same

/-- A character between single quotes. -/
def doubled (c : Char) : List Char :=
  if c = '\'' then ['\'', '\''] else [c]

theorem prefixed_doubled : Prefixed doubled := by
  intro first second rest more same
  unfold doubled at same
  split at same <;> split at same
  · simp_all
  · rename_i quote other
    simp only [List.cons_append, List.cons.injEq] at same
    exact absurd same.1.symm other
  · rename_i other quote
    simp only [List.cons_append, List.cons.injEq] at same
    exact absurd same.1 other
  · simpa using same

/-- Two quotes are no end. -/
theorem closes_singleQuote {rest : List Char} (apart : rest.head? ≠ some '\'') :
    Closes doubled ('\'' :: rest) := by
  intro c more same
  unfold doubled at same
  split at same
  · simp only [List.cons_append, List.nil_append, List.cons.injEq, true_and] at same
    simp [← same] at apart
  · simp_all

/-- A text that starts with a character other than a quote, and holds no line feed. -/
def IsBare (chars : List Char) : Prop :=
  (∃ c rest, chars = c :: rest ∧ isIndicator c = false) ∧ '\n' ∉ chars

/-- How a line is written: between double quotes, between single quotes, or plain. -/
inductive Written (line : String) : List Char → Prop where
  | doubleQuoted : Written line ('"' :: (line.toList.flatMap escaped ++ ['"']))
  | singleQuoted : Written line ('\'' :: (line.toList.flatMap doubled ++ ['\'']))
  | plain (same : scalar line = line) (bare : IsBare line.toList) : Written line line.toList

theorem written_scalar (line : String) : Written line (scalar line).toList := by
  by_cases escapes : needsEscapes line.toList = true
  · have same : (scalar line).toList = doubleQuoted line.toList := by
      simp [scalar, escapes]
    exact same ▸ .doubleQuoted
  by_cases quotes : (readsOtherwise line || !isPlain line.toList) = true
  · have same : (scalar line).toList = singleQuoted line.toList := by
      rw [scalar, String.toList_ofList, if_neg escapes, if_pos quotes]
    exact same ▸ .singleQuoted
  have same : scalar line = line := by
    rw [scalar, if_neg escapes, if_neg quotes, String.ofList_toList]
  rw [same]
  refine .plain same ⟨?_, fun feed => escapes (List.any_eq_true.mpr ⟨'\n', feed, by decide⟩)⟩
  simp only [Bool.or_eq_true, Bool.not_eq_true', not_or, Bool.not_eq_false] at quotes
  have plain := quotes.2
  unfold isPlain at plain
  split at plain
  · simp at plain
  · rename_i c rest begins
    exact ⟨c, rest, begins, by simp_all⟩

theorem IsBare.ne_quote {chars rest more : List Char} (bare : IsBare chars)
    (quote : isIndicator c = true) : chars ++ rest ≠ c :: more := by
  obtain ⟨⟨d, _, rfl, free⟩, _⟩ := bare
  intro same
  rw [List.cons_append, List.cons.injEq] at same
  rw [same.1, quote] at free
  simp at free

/-- The row of a line in a list. -/
def row (line : String) : List Char :=
  "- ".toList ++ (scalar line).toList ++ ['\n']

theorem prefixed_row : Prefixed row := by
  intro first second rest more same
  simp only [row, List.append_assoc, List.append_cancel_left_eq] at same
  have form := written_scalar first
  have other := written_scalar second
  generalize (scalar first).toList = chars at form same
  generalize (scalar second).toList = others at other same
  -- the first character tells in which of the three ways a line is written
  cases form with
  | doubleQuoted =>
    cases other with
    | doubleQuoted =>
      simp only [List.cons_append, List.append_assoc, List.cons.injEq, true_and] at same
      obtain ⟨chars, behind⟩ := prefixed_escaped.flatMap (closes_quote _) (closes_quote _) same
      exact ⟨String.toList_inj.mp chars, by simpa using behind⟩
    | singleQuoted => simp at same
    | plain _ bare => exact absurd same.symm (bare.ne_quote (by decide))
  | singleQuoted =>
    cases other with
    | doubleQuoted => simp at same
    | singleQuoted =>
      simp only [List.cons_append, List.append_assoc, List.cons.injEq, true_and] at same
      obtain ⟨chars, behind⟩ := prefixed_doubled.flatMap (closes_singleQuote (by simp))
        (closes_singleQuote (by simp)) same
      exact ⟨String.toList_inj.mp chars, by simpa using behind⟩
    | plain _ bare => exact absurd same.symm (bare.ne_quote (by decide))
  | plain _ bare =>
    cases other with
    | doubleQuoted => exact absurd same (bare.ne_quote (by decide))
    | singleQuoted => exact absurd same (bare.ne_quote (by decide))
    | plain _ free =>
      obtain ⟨chars, behind⟩ := eq_of_append_stop bare.2 free.2 same
      exact ⟨String.toList_inj.mp chars, behind⟩

end Yaml

end Offside.Report
