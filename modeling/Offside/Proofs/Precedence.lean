import Offside.Cli.Run
import Offside.Proofs.UnknownKeys

/-! Which source decides a setting. The flags of a request are a layer on top of its files
(`Request.load_eq`), so that a setting that loads comes from the strongest source that gives it
(`Request.settings_come_from_strongest`). A flag sets its own setting and leaves the others alone,
unless their section is a list (`Request.ofTree_flags`, `Request.ofTree_flags_of_splitsList`). -/

namespace Offside

namespace Settings

open Tree

/-- The tree that the defaults and the contents of files add up to. -/
def merged (contents : List (List (String × Tree))) : Tree :=
  (layer {} :: contents).foldl (fun tree layer => tree.overlayLayer layer) (.table none [])

namespace Field

/-- The key of the setting. -/
def key : Field → String
  | blockTail => "comments.block_tail"
  | strictPlacement => "comments.strict_placement"
  | format => "output.format"

theorem ofText?_key (field : Field) :
    KeyPath.ofText? field.key = some ⟨field.sectionName, [.key field.entryName]⟩ := by
  cases field <;> decide +kernel

theorem ofKey_key (field : Field) :
    KeyPath.ofKey field.key = ⟨field.sectionName, [.key field.entryName]⟩ := by
  rw [KeyPath.ofKey, ofText?_key]
  rfl

theorem ofKey_sectionName (field : Field) :
    KeyPath.ofKey field.sectionName = ⟨field.sectionName, []⟩ := by
  cases field <;> decide +kernel

theorem lowercase_sectionName (field : Field) :
    lowercase field.sectionName = field.sectionName := by
  cases field <;> decide +kernel

theorem lowercase_entryName (field : Field) : lowercase field.entryName = field.entryName := by
  cases field <;> decide +kernel

variable {field : Field} {value : Tree}

/-- A scalar that is laid over the place of a setting is set in the section. -/
theorem sectionOf_override (field flagged : Field) (tree : Tree)
    (scalar : value.isScalar = true) :
    field.sectionOf (tree.overlayEntry (flagged.key, value)) =
      if flagged.sectionName = field.sectionName then
        (field.sectionOf tree).set flagged.entryName value
      else field.sectionOf tree := by
  rw [sectionOf_overlayEntry, ofKey_key, lowercase_sectionName]
  dsimp only
  rw [laid_cons, overlaySteps_key, lowercase_entryName, laid_of_isScalar scalar]
  rfl

theorem of_override_self (field : Field) (tree : Tree) (scalar : value.isScalar = true) :
    field.of (tree.overlayEntry (field.key, value)) = some value := by
  rw [of, sectionOf_override _ _ _ scalar, if_pos rfl, within_set_self]

/-- The other setting of a section is lost when the section was a list. -/
theorem of_override_of_ne {flagged : Field} (other : flagged ≠ field) (tree : Tree)
    (scalar : value.isScalar = true) :
    field.of (tree.overlayEntry (flagged.key, value)) =
      if flagged.sectionName = field.sectionName ∧ (field.sectionOf tree).isList = true then none
      else field.of tree := by
  have apart (same : flagged.sectionName = field.sectionName) :
      flagged.entryName ≠ field.entryName := by
    revert same other
    cases flagged <;> cases field <;> simp [sectionName, entryName]
  rw [of, sectionOf_override _ _ _ scalar]
  by_cases same : flagged.sectionName = field.sectionName
  · simp only [same, ↓reduceIte, true_and]
    exact within_set_of_ne (apart same) _ _
  · simp only [same, ↓reduceIte, false_and]
    rfl

theorem isList_override (field flagged : Field) (tree : Tree) (scalar : value.isScalar = true) :
    (field.sectionOf (tree.overlayEntry (flagged.key, value))).isList =
      if flagged.sectionName = field.sectionName then false
      else (field.sectionOf tree).isList := by
  rw [sectionOf_override _ _ _ scalar]
  split
  · exact isList_set _ _
  · rfl

/-- The entry of a flag is known, and does not count from the end. -/
theorem knownPart?_key (field : Field) (value : Tree) :
    knownPart? (field.key, value) = some (field.key, value) := by
  have named := isNamed_key field.lowercase_entryName
  simp only [knownPart?, ofKey_key, lowercase_sectionName, any_sectionName, ↓reduceIte, knownValue?,
    named, Option.map_some]

theorem countsForward_key (field : Field) (value : Tree) :
    countsForward (field.key, value) = true := by
  simp only [countsForward, ofKey_key]

end Field

theorem knownPart?_section (field : Field) (entries : List (String × Tree)) :
    knownPart? (field.sectionName, .table none entries) =
      some (field.sectionName, .table none
        (entries.filter fun entry => Field.isNamed field.sectionName (.key entry.1))) := by
  simp only [knownPart?, Field.ofKey_sectionName, Field.lowercase_sectionName,
    Field.any_sectionName, ↓reduceIte, knownValue?, Option.map_some]

/-- All of the defaults is known. -/
theorem knownLayer_layer (settings : Settings) : knownLayer (layer settings) = layer settings := by
  have tail := Field.isNamed_key (Field.lowercase_entryName .blockTail)
  have strict := Field.isNamed_key (Field.lowercase_entryName .strictPlacement)
  have format := Field.isNamed_key (Field.lowercase_entryName .format)
  have comments := knownPart?_section .blockTail
    [("block_tail", .text (commentTails.nameOf settings.blockTail)),
      ("strict_placement", .bool settings.strictPlacement)]
  have output := knownPart?_section .format
    [("format", .text (outputFormats.nameOf settings.format))]
  simp only [Field.sectionName, Field.entryName] at tail strict format comments output
  simp only [knownLayer, layer, List.filterMap_cons, List.filterMap_nil, comments, output,
    List.filter_cons, tail, strict, format, ↓reduceIte, List.filter_nil]

theorem countsForward_layer (settings : Settings) :
    ∀ entry ∈ layer settings, countsForward entry = true := by
  have comments := Field.ofKey_sectionName .blockTail
  have output := Field.ofKey_sectionName .format
  simp only [Field.sectionName] at comments output
  simp [layer, countsForward, comments, output]

section Loading

variable {files : Files} {layers : List Layer} {overrides : List Override}

theorem foldl_places (entries : List (String × Tree)) (tree : Tree) :
    (entries.map fun entry => (KeyPath.ofKey entry.1, entry.2)).foldl
      (fun tree (path, value) => tree.overlayAt path value) tree = tree.overlayLayer entries := by
  induction entries generalizing tree with
  | nil => rfl
  | cons entry entries ih =>
    rw [List.map_cons, List.foldl_cons, overlayLayer_cons]
    exact ih _

/-- Settings that load have files that can be read. -/
theorem read_of_load {settings : Settings} (loaded : load files layers overrides = .ok settings) :
    ∃ contents, layers.mapM (Layer.read files) = .ok contents := by
  unfold load at loaded
  obtain ⟨_, _, loaded⟩ := bind_eq_ok_iff.mp loaded
  obtain ⟨contents, read, _⟩ := bind_eq_ok_iff.mp loaded
  exact ⟨contents, read⟩

/-- Overrides are one more layer. -/
theorem load_eq {contents : List (List (String × Tree))}
    (read : layers.mapM (Layer.read files) = .ok contents)
    (placed : placesOf overrides =
      .ok (overrides.map fun change => (KeyPath.ofKey change.key, change.value))) :
    load files layers overrides =
      ofTree ((merged contents).overlayLayer
        (overrides.map fun change => (change.key, change.value))) := by
  rw [← foldl_places, List.map_map]
  unfold load
  rw [placed, read]
  rfl

end Loading

end Settings

namespace Cli

open Settings (Layer Field Tree Override merged placesOf KeyPath)

variable {request : Request}

namespace Request

/-- The flags of a request as a layer of settings. -/
def flags (request : Request) : List (String × Tree) :=
  request.overrides.map fun change => (change.key, change.value)

/-- What the flags of a request make of settings. -/
def applied (request : Request) (settings : Settings) : Settings where
  blockTail := if request.padComments then .pad else settings.blockTail
  strictPlacement := if request.relaxed then false else settings.strictPlacement
  format := request.format?.getD settings.format

/-- What a flag of the request gives a setting. -/
def flag? (request : Request) : Field → Option Tree
  | .blockTail => if request.padComments then some (.text "pad") else none
  | .strictPlacement => if request.relaxed then some (.bool false) else none
  | .format => request.format?.map fun format => .text (Settings.outputFormats.nameOf format)

theorem placesOf_overrides (request : Request) :
    placesOf request.overrides =
      .ok (request.overrides.map fun change => (KeyPath.ofKey change.key, change.value)) := by
  have tail := Field.ofText?_key .blockTail
  have strict := Field.ofText?_key .strictPlacement
  have format := Field.ofText?_key .format
  simp only [Field.key, Field.sectionName, Field.entryName] at tail strict format
  obtain ⟨action, path, config?, format?, padComments, relaxed, verbose⟩ := request
  cases format? <;> cases padComments <;> cases relaxed <;>
    simp [overrides, placesOf, KeyPath.ofKey, tail, strict, format, bind, Except.bind, pure,
      Except.pure]

theorem isScalar_flag? {field : Field} {value : Tree} (flagged : request.flag? field = some value) :
    value.isScalar = true := by
  cases field with
  | blockTail | strictPlacement =>
    simp only [flag?] at flagged
    split at flagged
    · obtain rfl := Option.some.inj flagged
      rfl
    · simp at flagged
  | format =>
    obtain ⟨_, _, rfl⟩ := Option.map_eq_some_iff.mp flagged
    rfl

/-- Lays the flag of one setting over a tree, if the request has it. -/
def raise (request : Request) (tree : Tree) (field : Field) : Tree :=
  match request.flag? field with
  | some value => tree.overlayEntry (field.key, value)
  | none => tree

theorem flags_eq (request : Request) :
    request.flags = Field.all.filterMap fun field =>
      (request.flag? field).map fun value => (field.key, value) := by
  obtain ⟨action, path, config?, format?, padComments, relaxed, verbose⟩ := request
  cases format? <;> cases padComments <;> cases relaxed <;> rfl

theorem overlayLayer_flags (request : Request) (tree : Tree) :
    tree.overlayLayer request.flags = Field.all.foldl request.raise tree := by
  rw [flags_eq]
  generalize Field.all = fields
  induction fields generalizing tree with
  | nil => rfl
  | cons field fields ih =>
    rw [List.filterMap_cons, List.foldl_cons, ← ih, raise]
    cases request.flag? field with
    | none => rfl
    | some value => exact Tree.overlayLayer_cons _ _ _

theorem of_raise_self (request : Request) (field : Field) (tree : Tree) :
    field.of (request.raise tree field) = (request.flag? field).or (field.of tree) := by
  unfold raise
  cases flagged : request.flag? field with
  | none => rfl
  | some value => exact Field.of_override_self field tree (isScalar_flag? flagged)

theorem of_raise_of_ne {field flagged : Field} (other : flagged ≠ field) (tree : Tree) :
    field.of (request.raise tree flagged) =
      if (request.flag? flagged).isSome = true ∧ flagged.sectionName = field.sectionName ∧
        (field.sectionOf tree).isList = true then none
      else field.of tree := by
  unfold raise
  cases given : request.flag? flagged with
  | none => simp
  | some value => simpa using Field.of_override_of_ne other tree (isScalar_flag? given)

theorem isList_raise (request : Request) (field flagged : Field) (tree : Tree) :
    (field.sectionOf (request.raise tree flagged)).isList =
      if (request.flag? flagged).isSome = true ∧ flagged.sectionName = field.sectionName then false
      else (field.sectionOf tree).isList := by
  unfold raise
  cases given : request.flag? flagged with
  | none => simp
  | some value => simpa using Field.isList_override field flagged tree (isScalar_flag? given)

/-- There is a flag for the other setting of the section. -/
def disturbs (request : Request) : Field → Bool
  | .blockTail => request.relaxed
  | .strictPlacement => request.padComments
  | .format => false

/-- A setting has what its flag gives. Without a flag it has what it had, unless its section was a
list and there is a flag for the other setting of the section. -/
theorem of_flags (request : Request) (field : Field) (tree : Tree) :
    field.of (tree.overlayLayer request.flags) =
      (request.flag? field).or
        (if request.disturbs field = true ∧ (field.sectionOf tree).isList = true then none
        else field.of tree) := by
  rw [overlayLayer_flags]
  simp only [Field.all, List.foldl_cons, List.foldl_nil]
  cases field with
  | blockTail =>
    rw [of_raise_of_ne (by simp), of_raise_of_ne (by simp), of_raise_self]
    simp only [isList_raise]
    cases pad : request.padComments <;> cases relaxed : request.relaxed <;>
      simp [flag?, disturbs, pad, relaxed, Field.sectionName]
  | strictPlacement =>
    rw [of_raise_of_ne (by simp), of_raise_self, of_raise_of_ne (by simp)]
    cases pad : request.padComments <;> cases relaxed : request.relaxed <;>
      simp [flag?, disturbs, pad, relaxed, Field.sectionName]
  | format =>
    rw [of_raise_self, of_raise_of_ne (by simp), of_raise_of_ne (by simp)]
    simp [disturbs, Field.sectionName]

/-- What a flag gives is what the request makes of the setting. -/
theorem reads_flag? {field : Field} {value : Tree} (flagged : request.flag? field = some value)
    (settings : Settings) : field.Reads (request.applied settings) value := by
  cases field with
  | blockTail =>
    cases pad : request.padComments with
    | false => simp [flag?, pad] at flagged
    | true =>
      obtain rfl : .text "pad" = value := by simpa [flag?, pad] using flagged
      simp only [Field.Reads, applied, pad]
      rfl
  | strictPlacement =>
    cases relaxed : request.relaxed with
    | false => simp [flag?, relaxed] at flagged
    | true =>
      obtain rfl : .bool false = value := by simpa [flag?, relaxed] using flagged
      simp only [Field.Reads, applied, relaxed]
      exact ⟨"", rfl⟩
  | format =>
    obtain ⟨format, given, rfl⟩ := Option.map_eq_some_iff.mp flagged
    simp only [Field.Reads, applied, given]
    exact Settings.ofTree_nameOf_format format

/-- Without a flag a setting stays. -/
theorem reads_applied {field : Field} {value : Tree} {settings : Settings}
    (unflagged : request.flag? field = none) (reads : field.Reads settings value) :
    field.Reads (request.applied settings) value := by
  cases field with
  | blockTail =>
    cases pad : request.padComments with
    | true => simp [flag?, pad] at unflagged
    | false => simpa [Field.Reads, applied, pad] using reads
  | strictPlacement =>
    cases relaxed : request.relaxed with
    | true => simp [flag?, relaxed] at unflagged
    | false => simpa [Field.Reads, applied, relaxed] using reads
  | format =>
    have none : request.format? = none := by simpa [flag?] using unflagged
    simpa [Field.Reads, applied, none] using reads

/-- Just one of the two settings of a section that is a list has a flag. -/
def SplitsList (request : Request) (tree : Tree) : Prop :=
  request.padComments ≠ request.relaxed ∧ (Field.blockTail.sectionOf tree).isList = true

/-- Over a tree whose settings load, the flags set theirs and leave the others. -/
theorem ofTree_flags {settings : Settings} {tree : Tree}
    (loaded : Settings.ofTree tree = .ok settings) (whole : ¬request.SplitsList tree) :
    Settings.ofTree (tree.overlayLayer request.flags) = .ok (request.applied settings) := by
  rw [Field.ofTree_eq_ok_iff_reads] at loaded ⊢
  intro field
  obtain ⟨value, found, reads⟩ := loaded field
  have same : Field.strictPlacement.sectionOf tree = Field.blockTail.sectionOf tree := rfl
  rw [of_flags]
  cases flagged : request.flag? field with
  | some value => exact ⟨value, rfl, reads_flag? flagged settings⟩
  | none =>
    have kept : ¬(request.disturbs field = true ∧ (field.sectionOf tree).isList = true) := by
      rintro ⟨disturbed, list⟩
      apply whole
      cases field with
      | blockTail => exact ⟨by simp_all [flag?, disturbs], list⟩
      | strictPlacement => exact ⟨by simp_all [flag?, disturbs], same ▸ list⟩
      | format => simp [disturbs] at disturbed
    exact ⟨value, by rw [if_neg kept, found]; rfl, reads_applied flagged reads⟩

/-- Of the two settings of a section that is a list, one cannot be set alone. -/
theorem ofTree_flags_of_splitsList {tree : Tree} (splits : request.SplitsList tree) :
    ∃ refusal, Settings.ofTree (tree.overlayLayer request.flags) = .error refusal := by
  obtain ⟨different, list⟩ := splits
  cases loaded : Settings.ofTree (tree.overlayLayer request.flags) with
  | error refusal => exact ⟨refusal, rfl⟩
  | ok settings =>
    have reads := Field.ofTree_eq_ok_iff_reads.mp loaded
    simp only [of_flags] at reads
    obtain ⟨_, tail, -⟩ := reads .blockTail
    obtain ⟨_, strict, -⟩ := reads .strictPlacement
    have same : Field.strictPlacement.sectionOf tree = Field.blockTail.sectionOf tree := rfl
    cases pad : request.padComments <;> cases relaxed : request.relaxed <;>
      simp_all [flag?, disturbs]

/-- The defaults, the contents of the files, and the flags. -/
def stack (request : Request) (contents : List (List (String × Tree))) :
    List (List (String × Tree)) :=
  Settings.layer {} :: contents ++ [request.flags]

/-- What each source gives a setting, the strongest source last. -/
def sources (request : Request) (contents : List (List (String × Tree))) (field : Field) :
    List (List Tree) :=
  field.sources (.table none []) (request.stack contents)

/-- The settings that all sources add up to. -/
def settingsFrom (request : Request) (contents : List (List (String × Tree))) :
    Except Settings.Refusal Settings :=
  Settings.ofTree
    ((request.stack contents).foldl (fun tree layer => tree.overlayLayer layer) (.table none []))

section Stack

variable {files : Files} {contents : List (List (String × Tree))} {settings : Settings}

theorem foldl_stack (request : Request) (contents : List (List (String × Tree))) :
    (request.stack contents).foldl (fun tree layer => tree.overlayLayer layer) (.table none []) =
      (merged contents).overlayLayer request.flags := by
  rw [stack, List.foldl_append]
  rfl

/-- Settings come from the defaults, the files and the flags. -/
theorem load_eq (read : request.layers.mapM (Layer.read files) = .ok contents) :
    Settings.load files request.layers request.overrides = request.settingsFrom contents := by
  rw [Settings.load_eq read request.placesOf_overrides, settingsFrom, foldl_stack, flags]

theorem load_plain (read : request.layers.mapM (Layer.read files) = .ok contents) :
    Settings.load files request.layers [] = Settings.ofTree (merged contents) := by
  have none : placesOf [] = .ok [] := rfl
  rw [Settings.load_eq read none, List.map_nil, Tree.overlayLayer_nil]

theorem knownLayer_flags (request : Request) :
    Settings.knownLayer request.flags = request.flags := by
  rw [flags_eq, Settings.knownLayer, List.filterMap_filterMap]
  refine List.filterMap_congr fun field _ => ?_
  cases request.flag? field with
  | none => rfl
  | some value => rw [Option.map_some, Option.bind_some, field.knownPart?_key]

theorem countsForward_flags (request : Request) :
    ∀ entry ∈ request.flags, Settings.countsForward entry = true := by
  intro entry member
  rw [flags_eq] at member
  obtain ⟨field, _, given⟩ := List.mem_filterMap.mp member
  obtain ⟨value, _, rfl⟩ := Option.map_eq_some_iff.mp given
  exact field.countsForward_key value

theorem map_knownLayer_stack (request : Request) (contents : List (List (String × Tree))) :
    (request.stack contents).map Settings.knownLayer =
      request.stack (contents.map Settings.knownLayer) := by
  simp [stack, Settings.knownLayer_layer, knownLayer_flags]

end Stack

/-- Settings that load come from the strongest source that gives them, and keys that name no setting
do nothing as long as no index counts from the end. Flags set their settings and leave the others,
unless one of the two settings of a section that is a list is to be set alone. -/
theorem settings_come_from_strongest (files : Files) (request : Request) :
    (∀ settings, Settings.load files request.layers request.overrides = .ok settings →
      ∃ contents, request.layers.mapM (Layer.read files) = .ok contents ∧
        request.settingsFrom contents = .ok settings ∧
        (∀ field : Field, (request.sources contents field).flatten.all Tree.isScalar = true →
          ∃ value, (request.sources contents field).flatten.getLast? = some value ∧
            field.Reads settings value) ∧
        ((∀ field : Field, (request.sources contents field).flatten.all Tree.isScalar = true) →
          contents.flatten.all Settings.countsForward = true →
          request.settingsFrom (contents.map Settings.knownLayer) = .ok settings)) ∧
    ∀ settings, Settings.load files request.layers [] = .ok settings →
      ∃ contents, request.layers.mapM (Layer.read files) = .ok contents ∧
        (¬request.SplitsList (merged contents) →
          Settings.load files request.layers request.overrides =
            .ok (request.applied settings)) ∧
        (request.SplitsList (merged contents) →
          ∃ refusal, Settings.load files request.layers request.overrides = .error refusal) := by
  refine ⟨fun settings loaded => ?_, fun settings loaded => ?_⟩
  · obtain ⟨contents, read⟩ := Settings.read_of_load loaded
    rw [load_eq read] at loaded
    have each (field : Field)
        (scalars : (request.sources contents field).flatten.all Tree.isScalar = true) :
        ∀ given ∈ field.sources (.table none []) (request.stack contents),
          ∀ value ∈ given, value.isScalar = true := by
      intro given source value member
      exact List.all_eq_true.mp scalars value (List.mem_flatten.mpr ⟨given, source, member⟩)
    refine ⟨contents, read, loaded, fun field scalars => ?_, fun scalars forward => ?_⟩
    · exact Field.reads_source (each field scalars) loaded
    · rw [settingsFrom, ← map_knownLayer_stack]
      refine Settings.ofTree_known _ (fun field => each field (scalars field)) ?_ loaded
      rw [stack, List.forall_mem_append, List.forall_mem_singleton]
      refine ⟨List.forall_mem_cons.mpr ⟨Settings.countsForward_layer {},
        fun layer among entry member => ?_⟩, request.countsForward_flags⟩
      exact List.all_eq_true.mp forward entry (List.mem_flatten.mpr ⟨layer, among, member⟩)
  · obtain ⟨contents, read⟩ := Settings.read_of_load loaded
    rw [load_plain read] at loaded
    rw [load_eq read, settingsFrom, foldl_stack]
    exact ⟨contents, read, ofTree_flags loaded, ofTree_flags_of_splitsList⟩

/-- A section that is a list loads, and does not load with the flag of one of its settings. An index
that counts from the end stands for another setting once a key that names none has made the list
longer. -/
theorem not_settings_come_from_strongest :
    let listed : Files := fun path =>
      if path = "prelex.toml" then some (.text "comments = [\"trim\", true]\n") else none
    let plain : Request := ⟨.process, "i", none, none, false, false, false⟩
    let padded : Request := ⟨.process, "i", none, none, true, false, false⟩
    let indexed (more : String) : Files := fun path =>
      if path = "prelex.toml" then
        some (.text ("\"comments[0]\" = \"trim\"\n\"comments[1]\" = true\n" ++ more))
      else if path = "c.toml" then some (.text "\"comments[-1]\" = false\n")
      else none
    let configured : Request := ⟨.process, "i", some "c.toml", none, false, false, false⟩
    Settings.load listed plain.layers plain.overrides = .ok {} ∧
      (∀ settings, Settings.load listed padded.layers padded.overrides ≠ .ok settings) ∧
      Settings.load (indexed "") configured.layers configured.overrides =
        .ok { strictPlacement := false } ∧
      Settings.load (indexed "\"comments[2]\" = 0\n") configured.layers configured.overrides =
        .ok {} := by
  intro listed plain padded indexed configured
  refine ⟨Settings.ok_of_toOption (by decide +kernel), ?_,
    Settings.ok_of_toOption (by decide +kernel), Settings.ok_of_toOption (by decide +kernel)⟩
  intro settings loaded
  have refused : (Settings.load listed padded.layers padded.overrides).toOption = none := by
    decide +kernel
  rw [loaded] at refused
  simp [Except.toOption] at refused

/-- Keys in mixed case and as paths, among keys that name no setting. One setting comes from each of
the two files, where the second overrules the first in the format, and one from a flag. -/
theorem settings_come_from_strongest_spellings :
    let files : Files := fun path =>
      if path = "prelex.toml" then
        some (.text ("\"COMMENTS.Block_Tail\" = \"PAD\"\nextra = 1\n" ++
          "[Output]\nFormat = \"json\"\ncolor = true\n"))
      else if path = "c.toml" then
        some (.text "\"output.FORMAT\" = \"Yaml\"\n[comments]\nstrict_placement = \"on\"\nx = []\n")
      else none
    let request : Request := ⟨.process, "i", some "c.toml", none, false, true, false⟩
    let settings : Settings := ⟨.pad, false, .yaml⟩
    Settings.load files request.layers [] = .ok ⟨.pad, true, .yaml⟩ ∧
      Settings.load files request.layers request.overrides = .ok settings ∧
      ∃ contents, request.layers.mapM (Layer.read files) = .ok contents ∧
        (∀ field : Field, ∃ value,
          (request.sources contents field).flatten.getLast? = some value ∧
            field.Reads settings value) ∧
        request.settingsFrom (contents.map Settings.knownLayer) = .ok settings := by
  intro files request settings
  have plain : Settings.load files request.layers [] = .ok ⟨.pad, true, .yaml⟩ :=
    Settings.ok_of_toOption (by decide +kernel)
  obtain ⟨contents, read, flagged, -⟩ :=
    (settings_come_from_strongest files request).2 ⟨.pad, true, .yaml⟩ plain
  have checked : ((request.layers.mapM (Layer.read files)).toOption.any fun contents =>
      (Field.all.all fun field => (request.sources contents field).flatten.all Tree.isScalar) &&
        contents.flatten.all Settings.countsForward &&
        !(Field.blockTail.sectionOf (merged contents)).isList) = true := by
    decide +kernel
  rw [read] at checked
  simp only [Except.toOption, Option.any_some, Bool.and_eq_true, Bool.not_eq_true'] at checked
  obtain ⟨⟨scalars, forward⟩, table⟩ := checked
  have loaded : Settings.load files request.layers request.overrides = .ok settings :=
    flagged fun splits => Bool.false_ne_true (table.symm.trans splits.2)
  obtain ⟨again, readAgain, -, strongest, bare⟩ :=
    (settings_come_from_strongest files request).1 settings loaded
  obtain rfl : contents = again := Except.ok.inj (read.symm.trans readAgain)
  have each (field : Field) :
      (request.sources contents field).flatten.all Tree.isScalar = true :=
    List.all_eq_true.mp scalars field (by cases field <;> decide)
  exact ⟨plain, loaded, contents, read, fun field => strongest field (each field),
    bare each forward⟩

end Request

end Cli

end Offside
