import Mathlib.Data.List.DropRight
import Offside.Proofs.Endings
import Offside.Proofs.Escapes

/-! A document determines the lines it is written from, and in JSON all of it is printed. In YAML
the end of the last line is cut off along with the end of the document, when the line is written
plain and ends in a blank (`Cli.closed_yaml_iff`); but for that, runs that print the same have the
same lines (`Cli.stdout_document`). -/

namespace Offside

namespace Report

namespace Json

theorem document_cons (line : String) (lines : List String) :
    (document (line :: lines)).toList =
      "\x7b\n  \"lines\": [\n".toList ++ (row line ++
        (lines.flatMap (fun line => ",\n".toList ++ row line) ++ "\n  ]\n\x7d".toList)) := by
  have unfolded : document (line :: lines) =
      "\x7b\n  \"lines\": " ++ ("[\n" ++ ",\n".intercalate
        (("    " ++ string line) :: lines.map fun line => "    " ++ string line) ++ "\n  ]") ++
          "\n\x7d" := rfl
  have opening : "\x7b\n  \"lines\": [\n".toList =
      "\x7b\n  \"lines\": ".toList ++ "[\n".toList := rfl
  have closing : "\n  ]\n\x7d".toList = "\n  ]".toList ++ "\n\x7d".toList := rfl
  rw [unfolded, intercalate_cons, opening, closing]
  simp only [String.toList_append, String.toList_join, List.map_map, List.flatMap_map, row,
    Function.comp_apply, List.append_assoc]

theorem document_injective : Function.Injective document := by
  intro first second same
  have chars := congrArg String.toList same
  cases first with
  | nil =>
    cases second with
    | nil => rfl
    | cons line lines =>
      rw [document_cons] at chars
      simp [document] at chars
  | cons line lines =>
    cases second with
    | nil =>
      rw [document_cons] at chars
      simp [document] at chars
    | cons other others =>
      rw [document_cons, document_cons, List.append_cancel_left_eq] at chars
      obtain ⟨rfl, behind⟩ := prefixed_row chars
      have prefixed : Prefixed fun line => ",\n".toList ++ row line := by
        intro first second rest more same
        simp only [List.append_assoc, List.append_cancel_left_eq] at same
        exact prefixed_row same
      have closes : Closes (fun line => ",\n".toList ++ row line) "\n  ]\n\x7d".toList := by
        intro line rest same
        simp at same
      obtain ⟨rfl, _⟩ := prefixed.flatMap closes closes behind
      rfl

end Json

namespace Yaml

theorem document_cons (line : String) (lines : List String) :
    (document (line :: lines)).toList = "lines:\n".toList ++ (line :: lines).flatMap row := by
  have unfolded : document (line :: lines) =
      "lines:\n" ++ String.join ((line :: lines).map fun line => "- " ++ scalar line ++ "\n") := rfl
  rw [unfolded]
  simp only [String.toList_append, String.toList_join, List.flatMap_map]
  rfl

theorem document_injective : Function.Injective document := by
  intro first second same
  have chars := congrArg String.toList same
  cases first with
  | nil =>
    cases second with
    | nil => rfl
    | cons line lines =>
      rw [document_cons] at chars
      simp [document] at chars
  | cons line lines =>
    cases second with
    | nil =>
      rw [document_cons] at chars
      simp [document] at chars
    | cons other others =>
      rw [document_cons, document_cons, List.append_cancel_left_eq] at chars
      have closes : Closes row [] := by
        intro line rest same
        simp [row] at same
      have equal := prefixed_row.flatMap closes closes (congrArg (· ++ []) chars)
      exact equal.1

theorem document_concat (lines : List String) (line : String) :
    document (lines ++ [line]) =
      "lines:\n" ++ String.join (lines.map fun line => "- " ++ scalar line ++ "\n") ++ "- " ++
        scalar line ++ "\n" := by
  have some : (lines ++ [line]).isEmpty = false := by simp
  rw [document, some, ← String.toList_inj]
  simp [String.toList_append, String.toList_join]

theorem scalar_ne_nil (line : String) : (scalar line).toList ≠ [] := by
  have form := written_scalar line
  generalize (scalar line).toList = chars at form
  cases form with
  | doubleQuoted | singleQuoted => exact List.cons_ne_nil _ _
  | plain _ bare =>
    obtain ⟨c, rest, same, _⟩ := bare.1
    exact same ▸ List.cons_ne_nil _ _

/-- The last line is written plain and ends in a blank. -/
def LosesEnd (lines : List String) : Prop :=
  ∃ line ∈ lines.getLast?, scalar line = line ∧ ∃ c ∈ line.toList.getLast?, isBlank c = true

/-- Quotes are no blanks, so only a plain line can end in one. -/
theorem getLast?_scalar_blank_iff (line : String) :
    (∀ c ∈ (scalar line).toList.getLast?, isBlank c = false) ↔
      ¬(scalar line = line ∧ ∃ c ∈ line.toList.getLast?, isBlank c = true) := by
  have form := written_scalar line
  generalize written : (scalar line).toList = chars at form
  have quoted (front : List Char) (quote : Char) (split : chars = front ++ [quote])
      (filled : isBlank quote = false) :
      (∀ c ∈ chars.getLast?, isBlank c = false) ↔
        ¬(scalar line = line ∧ ∃ c ∈ line.toList.getLast?, isBlank c = true) := by
    have last : ∀ c ∈ chars.getLast?, isBlank c = false := by
      simp [split, filled]
    refine iff_of_true last ?_
    rintro ⟨same, c, among, blank⟩
    rw [same] at written
    rw [written] at among
    simp [last c among] at blank
  cases form with
  | doubleQuoted => exact quoted _ '"' (List.cons_append ..).symm (by decide)
  | singleQuoted => exact quoted _ '\'' (List.cons_append ..).symm (by decide)
  | plain same bare => simp [same]

end Yaml

end Report

namespace Cli

open Report
open Settings (OutputFormat)

theorem toList_closed (document : String) :
    (closed document).toList = document.toList.rdropWhile isBlank ++ ['\n'] := by
  rw [closed, trimEnd, String.toList_append, String.toList_ofList]
  rfl

/-- Nothing is cut off from a document just when there is no blank in front of the line feed at its
end. -/
theorem closed_append_iff (text : String) :
    closed (text ++ "\n") = text ++ "\n" ↔ ∀ c ∈ text.toList.getLast?, isBlank c = false := by
  have feed : "\n".toList = ['\n'] := rfl
  rw [← String.toList_inj, toList_closed, String.toList_append, feed,
    List.rdropWhile_concat_pos _ _ _ (by decide), List.append_cancel_right_eq,
    List.rdropWhile_eq_self_iff]
  cases text.toList using List.reverseRec <;> simp

theorem closed_json (lines : List String) :
    closed (Json.document lines) = Json.document lines ++ "\n" := by
  obtain ⟨front, split⟩ : ∃ front, Json.document lines = front ++ "\n\x7d" := ⟨_, rfl⟩
  have chars : (Json.document lines).toList = front.toList ++ ['\n'] ++ ['}'] := by
    rw [split, String.toList_append, List.append_assoc]
    rfl
  rw [← String.toList_inj, toList_closed, chars, List.rdropWhile_concat_neg _ _ _ (by decide),
    String.toList_append, chars]
  rfl

/-- Of a document with lines, the end of the last line is lost just when that line is written plain
and ends in a blank. -/
theorem closed_yaml_iff (lines : List String) :
    closed (Yaml.document lines) = Yaml.document lines ↔ ¬Yaml.LosesEnd lines := by
  cases lines using List.reverseRec with
  | nil =>
    have kept : closed ("lines: []" ++ "\n") = "lines: []" ++ "\n" := by
      rw [closed_append_iff]
      intro c last
      obtain rfl : ']' = c := Option.some.inj last
      decide
    exact iff_of_true kept (by simp [Yaml.LosesEnd])
  | append_singleton lines line =>
    rw [Yaml.document_concat, closed_append_iff, String.toList_append,
      List.getLast?_append_of_ne_nil _ (Yaml.scalar_ne_nil line), Yaml.getLast?_scalar_blank_iff]
    simp [Yaml.LosesEnd]

variable {files : Files} {request : Request} {format : OutputFormat} {lines : List String}

/-- The request prints the lines of its text, in the format. -/
structure Request.Prints (files : Files) (request : Request) (format : OutputFormat)
    (lines : List String) : Prop where
  action : request.action = .process
  passes : ∃ settings text, request.Reads files settings text ∧ settings.format = format ∧
    processText settings.options text = ⟨lines, none⟩

theorem Request.Prints.stdout (prints : request.Prints files format lines) :
    (request.carryOut files).stdout = rendered format lines := by
  obtain ⟨settings, text, reads, rfl, outcome⟩ := prints.passes
  rw [reads.carryOut, outcome, printed, prints.action]

/-- No line holds a character at which a document breaks and folds it. -/
def Unfolded (lines : List String) : Prop :=
  ∀ line ∈ lines, '\u2028' ∉ line.toList ∧ '\u2029' ∉ line.toList

instance (lines : List String) : Decidable (Unfolded lines) :=
  inferInstanceAs (Decidable (∀ line ∈ lines, '\u2028' ∉ line.toList ∧ '\u2029' ∉ line.toList))

/-- What is printed is the whole document, unless the last line is written plain in YAML and ends in
a blank; and a document that is whole determines its lines. -/
theorem stdout_document (prints : request.Prints files format lines) :
    (format = .json → (request.carryOut files).stdout = Json.document lines ++ "\n") ∧
    (format = .yaml → Unfolded lines →
      ((request.carryOut files).stdout = Yaml.document lines ↔ ¬Yaml.LosesEnd lines)) ∧
    ∀ {filesToo : Files} {requestToo : Request} {linesToo : List String},
      requestToo.Prints filesToo format linesToo → format ≠ .text →
      (format = .yaml → (Unfolded lines ∧ ¬Yaml.LosesEnd lines) ∧
        Unfolded linesToo ∧ ¬Yaml.LosesEnd linesToo) →
      (request.carryOut files).stdout = (requestToo.carryOut filesToo).stdout →
      lines = linesToo := by
  rw [prints.stdout]
  refine ⟨?_, ?_, ?_⟩
  · rintro rfl
    exact closed_json lines
  · rintro rfl _
    exact closed_yaml_iff lines
  · intro filesToo requestToo linesToo printsToo structured whole same
    rw [printsToo.stdout] at same
    cases format with
    | text => exact absurd rfl structured
    | json =>
      simp only [rendered, closed_json] at same
      exact Json.document_injective ((String.append_left_inj _).mp same)
    | yaml =>
      obtain ⟨⟨_, kept⟩, _, keptToo⟩ := whole rfl
      simp only [rendered, (closed_yaml_iff lines).mpr kept, (closed_yaml_iff linesToo).mpr keptToo]
        at same
      exact Yaml.document_injective same

theorem prints_single (format : OutputFormat) {text : String}
    (outcome : processText {} text = ⟨lines, none⟩) :
    Request.Prints (single "f" text) ⟨.process, "f", none, some format, false, false, false⟩ format
      lines :=
  ⟨rfl, _, text, reads_single .process (some format) text (by decide +kernel), rfl, outcome⟩

theorem stdout_document_levels :
    let request : Request := ⟨.process, "f", none, some .yaml, false, false, false⟩
    let files := single "f" "a\n  b"
    request.Prints files .yaml ["a\x7b", "  b\x7d"] ∧ Unfolded ["a\x7b", "  b\x7d"] ∧
      ¬Yaml.LosesEnd ["a\x7b", "  b\x7d"] ∧
      (request.carryOut files).stdout = Yaml.document ["a\x7b", "  b\x7d"] ∧
      ∀ {filesToo : Files} {requestToo : Request} {linesToo : List String},
        requestToo.Prints filesToo .yaml linesToo → Unfolded linesToo → ¬Yaml.LosesEnd linesToo →
        (request.carryOut files).stdout = (requestToo.carryOut filesToo).stdout →
        ["a\x7b", "  b\x7d"] = linesToo := by
  intro request files
  have prints : request.Prints files .yaml ["a\x7b", "  b\x7d"] :=
    prints_single .yaml (by decide +kernel)
  have keeps : ¬Yaml.LosesEnd ["a\x7b", "  b\x7d"] := by
    simp [Yaml.LosesEnd, isBlank]
  obtain ⟨_, whole, determined⟩ := stdout_document prints
  have unfolded : Unfolded ["a\x7b", "  b\x7d"] := by decide
  refine ⟨prints, unfolded, keeps, (whole rfl unfolded).mpr keeps, ?_⟩
  intro _ _ _ printsToo unfoldedToo keepsToo
  exact determined printsToo (by decide) fun _ => ⟨⟨unfolded, keeps⟩, unfoldedToo, keepsToo⟩

/-- A blank at the end of the last line is lost in YAML, and with it a line is taken for another. -/
theorem not_stdout_document_blank :
    let request : Request := ⟨.process, "f", none, some .yaml, false, false, false⟩
    request.Prints (single "f" "a\u00a0") .yaml ["a\u00a0"] ∧
      request.Prints (single "f" "a") .yaml ["a"] ∧
      Unfolded ["a\u00a0"] ∧ Unfolded ["a"] ∧
      (request.carryOut (single "f" "a\u00a0")).stdout = "lines:\n- a\n" ∧
      (request.carryOut (single "f" "a")).stdout = "lines:\n- a\n" ∧
      Yaml.document ["a\u00a0"] = "lines:\n- a\u00a0\n" ∧ ["a\u00a0"] ≠ ["a"] := by
  intro request
  have blank : request.Prints (single "f" "a\u00a0") .yaml ["a\u00a0"] :=
    prints_single .yaml (by decide +kernel)
  have plain : request.Prints (single "f" "a") .yaml ["a"] :=
    prints_single .yaml (by decide +kernel)
  refine ⟨blank, plain, by decide, by decide, ?_, ?_, by decide +kernel, by decide⟩
  · rw [blank.stdout]
    decide +kernel
  · rw [plain.stdout]
    decide +kernel

end Cli

end Offside
