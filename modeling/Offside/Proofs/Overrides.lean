import Mathlib.Data.List.Basic
import Mathlib.Data.List.Induction
import Offside.Settings.Layers

/-! What one override does to settings that load: it changes the tree at its own place
(`Settings.load_concat`). Setting a key leaves the other keys of a table alone, so a format that is
put on top is the format of the settings and nothing else of them changes
(`Settings.ofTree_overlayAt_format`). With nothing on top of them, the defaults load as they are
(`Settings.load_of_missing`). -/

namespace Offside.Settings

section Entries

variable {entries : List (String × α)} {key name : String} {value : α}

theorem lookup_replace_self :
    (entries.map fun entry => if entry.1 == key then (key, value) else entry).lookup key =
      if entries.any (·.1 == key) then some value else none := by
  induction entries with
  | nil => rfl
  | cons entry entries ih =>
    obtain ⟨own, here⟩ := entry
    by_cases same : own = key
    · simp [same]
    · simp only [List.map_cons, List.any_cons, beq_eq_false_iff_ne.mpr same,
        beq_eq_false_iff_ne.mpr (Ne.symm same), List.lookup_cons, ih, Bool.false_or,
        Bool.false_eq_true, ↓reduceIte]

theorem lookup_replace_of_ne (other : name ≠ key) :
    (entries.map fun entry => if entry.1 == key then (key, value) else entry).lookup name =
      entries.lookup name := by
  induction entries with
  | nil => rfl
  | cons entry entries ih =>
    obtain ⟨own, here⟩ := entry
    by_cases same : own = key
    · have apart : (name == key) = false := by simpa using other
      simpa [same, apart, List.lookup_cons] using ih
    · simp only [List.map_cons, beq_eq_false_iff_ne.mpr same, List.lookup_cons, ih,
        Bool.false_eq_true, ↓reduceIte]

theorem lookup_eq_none_of_any (missing : ¬entries.any (·.1 == key) = true) :
    entries.lookup key = none := by
  refine List.lookup_eq_none_iff.mpr fun entry member => ?_
  have apart : entry.1 ≠ key := fun same =>
    missing (List.any_eq_true.mpr ⟨entry, member, by simpa using same⟩)
  simpa using apart.symm

end Entries

namespace Tree

variable {tree value : Tree} {key name : String}

theorem entries_set (tree : Tree) (key : String) (value : Tree) :
    (tree.set key value).entries =
      if tree.entries.any (·.1 == key) then
        tree.entries.map fun entry => if entry.1 == key then (key, value) else entry
      else tree.entries ++ [(key, value)] := by
  cases tree <;> rfl

/-- Whatever there was, there is a table once a key is set. -/
theorem set_eq_table (tree : Tree) (key : String) (value : Tree) :
    ∃ origin?, tree.set key value = .table origin? (tree.set key value).entries := by
  cases tree <;> exact ⟨_, rfl⟩

@[simp] theorem get?_set_self (tree : Tree) (key : String) (value : Tree) :
    (tree.set key value).get? key = some value := by
  rw [get?, entries_set]
  split
  · rename_i present
    rw [lookup_replace_self, if_pos present]
  · rename_i missing
    simp [List.lookup_append, lookup_eq_none_of_any missing]

theorem get?_set_of_ne (tree value : Tree) (other : name ≠ key) :
    (tree.set key value).get? name = tree.get? name := by
  rw [get?, entries_set]
  split
  · exact lookup_replace_of_ne other
  · have apart : (name == key) = false := by simpa using other
    simp [List.lookup_append, get?, List.lookup_cons, apart]

end Tree

section Reading

theorem bind_eq_ok_iff {first : Except ε α} {next : α → Except ε β} :
    first >>= next = .ok b ↔ ∃ a, first = .ok a ∧ next a = .ok b := by
  cases first with
  | error refusal => exact ⟨fun same => (nomatch same), fun ⟨_, same, _⟩ => (nomatch same)⟩
  | ok a =>
    constructor
    · intro passed
      exact ⟨a, rfl, passed⟩
    · rintro ⟨_, same, passed⟩
      cases same
      exact passed

theorem mapM_eq_some_iff {read : α → Except ε β} {value? : Option α} :
    value?.mapM read = .ok (some b) ↔ ∃ a, value? = some a ∧ read a = .ok b := by
  cases value? with
  | none => exact ⟨fun same => (nomatch same), fun ⟨_, same, _⟩ => (nomatch same)⟩
  | some a =>
    have mapped : (some a).mapM read = some <$> read a := rfl
    rw [mapped]
    cases passed : read a <;> simp [Functor.map, Except.map, passed]

theorem ok_of_toOption {result : Except ε α} (passed : result.toOption = some a) :
    result = .ok a := by
  cases result <;> simp_all [Except.toOption]

theorem needed_eq_ok_iff {name : String} {value? : Option α} :
    needed name value? = .ok a ↔ value? = some a := by
  cases value? <;> simp [needed]

end Reading

/-- Settings are read from their two sections. -/
theorem ofTree_eq_ok_iff {tree : Tree} {settings : Settings} :
    ofTree tree = .ok settings ↔
      ∃ comments output, tree.get? "comments" = some comments ∧
        commentsOfTree comments = .ok (settings.blockTail, settings.strictPlacement) ∧
        tree.get? "output" = some output ∧ outputOfTree output = .ok settings.format := by
  simp only [ofTree, bind_eq_ok_iff, needed_eq_ok_iff]
  constructor
  · rintro ⟨_, readComments, _, readOutput, ⟨blockTail, strictPlacement⟩, rfl, format, rfl, same⟩
    obtain ⟨comments, foundComments, passedComments⟩ := mapM_eq_some_iff.mp readComments
    obtain ⟨output, foundOutput, passedOutput⟩ := mapM_eq_some_iff.mp readOutput
    cases same
    exact ⟨comments, output, foundComments, passedComments, foundOutput, passedOutput⟩
  · rintro ⟨comments, output, foundComments, passedComments, foundOutput, passedOutput⟩
    exact ⟨_, mapM_eq_some_iff.mpr ⟨comments, foundComments, passedComments⟩,
      _, mapM_eq_some_iff.mpr ⟨output, foundOutput, passedOutput⟩, _, rfl, _, rfl, rfl⟩

/-- The place of the format among the settings. -/
def formatPath : KeyPath := ⟨"output", [.key "format"]⟩

theorem ofText?_format : KeyPath.ofText? "output.format" = some formatPath := by
  decide +kernel

theorem ofTree_nameOf_format (format : OutputFormat) :
    outputFormats.ofTree (.text (outputFormats.nameOf format)) = .ok format := by
  cases format <;> rfl

theorem overlayAt_format (tree value : Tree)
    (scalar : ∀ origin? entries, value ≠ .table origin? entries) :
    tree.overlayAt formatPath value =
      tree.set "output" (((tree.get? "output").getD .null).set "format" value) := by
  have output : lowercase "output" = "output" := by decide +kernel
  have format : lowercase "format" = "format" := by decide +kernel
  simp only [Tree.overlayAt, formatPath, Tree.overlaySteps, output]
  cases value with
  | table origin? entries => exact absurd rfl (scalar origin? entries)
  | scalar => rw [Tree.overlay, format]; simp
  | list => rw [Tree.overlay, format]; simp

/-- A format that is put on top of settings takes the place of theirs. -/
theorem ofTree_overlayAt_format {tree : Tree} {settings : Settings}
    (loaded : ofTree tree = .ok settings) (format : OutputFormat) :
    ofTree (tree.overlayAt formatPath (.text (outputFormats.nameOf format))) =
      .ok { settings with format } := by
  obtain ⟨comments, _, foundComments, passedComments, _, _⟩ := ofTree_eq_ok_iff.mp loaded
  rw [overlayAt_format _ _ (by simp [Tree.text])]
  generalize (tree.get? "output").getD .null = output
  obtain ⟨origin?, table⟩ := output.set_eq_table "format" (.text (outputFormats.nameOf format))
  have found : (output.set "format" (.text (outputFormats.nameOf format))).entries.lookup "format" =
      some (.text (outputFormats.nameOf format)) := Tree.get?_set_self _ _ _
  refine ofTree_eq_ok_iff.mpr ⟨comments, _, ?_, passedComments, Tree.get?_set_self _ _ _, ?_⟩
  · rw [Tree.get?_set_of_ne _ _ (by decide), foundComments]
  · rw [table, outputOfTree, found, bind_eq_ok_iff]
    exact ⟨_, mapM_eq_some_iff.mpr ⟨_, rfl, ofTree_nameOf_format format⟩, rfl⟩

section Load

variable {files : Files} {layers : List Layer} {overrides : List Override} {change : Override}
variable {path : KeyPath} {places : List (KeyPath × Tree)}

/-- One override more is laid over what there was, unless its place is taken. -/
theorem placesOf_concat (placed : placesOf overrides = .ok places)
    (known : KeyPath.ofText? change.key = some path) (fresh : ∀ place ∈ places, place.1 ≠ path) :
    placesOf (overrides ++ [change]) = .ok (places ++ [(path, change.value)]) := by
  have kept : places.filter (·.1 != path) = places :=
    List.filter_eq_self.mpr fun place member => by simpa using fresh place member
  unfold placesOf at placed ⊢
  rw [List.foldlM_append, placed]
  simp [List.foldlM_cons, known, kept, bind, Except.bind, pure, Except.pure]

/-- The places are those that the overrides name. -/
theorem mem_placesOf (placed : placesOf overrides = .ok places) :
    ∀ place ∈ places, ∃ change ∈ overrides, KeyPath.ofText? change.key = some place.1 := by
  induction overrides using List.reverseRec generalizing places with
  | nil =>
    cases placed
    simp
  | append_singleton overrides change ih =>
    rw [placesOf, List.foldlM_append] at placed
    obtain ⟨before, placedBefore, last⟩ := bind_eq_ok_iff.mp placed
    rw [List.foldlM_cons] at last
    cases known : KeyPath.ofText? change.key with
    | none => simp [known, bind, Except.bind] at last
    | some path =>
      simp only [known, bind, Except.bind, List.foldlM_nil, pure, Except.pure,
        Except.ok.injEq] at last
      subst last
      intro place member
      rcases List.mem_append.mp member with earlier | newest
      · obtain ⟨other, among, named⟩ := ih placedBefore place (List.mem_filter.mp earlier).1
        exact ⟨other, List.mem_append_left _ among, named⟩
      · obtain rfl := List.mem_singleton.mp newest
        exact ⟨change, List.mem_append_right _ List.mem_cons_self, known⟩

/-- An override at a place of its own is laid over the tree that was loaded without it. -/
theorem load_concat {settings : Settings} (change : Override)
    (loaded : load files layers overrides = .ok settings)
    (known : KeyPath.ofText? change.key = some path)
    (fresh : ∀ other ∈ overrides, KeyPath.ofText? other.key ≠ some path) :
    ∃ tree, ofTree tree = .ok settings ∧
      load files layers (overrides ++ [change]) = ofTree (tree.overlayAt path change.value) := by
  unfold load at loaded ⊢
  obtain ⟨places, placed, loaded⟩ := bind_eq_ok_iff.mp loaded
  obtain ⟨contents, read, loaded⟩ := bind_eq_ok_iff.mp loaded
  refine ⟨_, loaded, ?_⟩
  have freshPlaces : ∀ place ∈ places, place.1 ≠ path := by
    intro place member same
    obtain ⟨other, among, named⟩ := mem_placesOf placed place member
    exact fresh other among (same ▸ named)
  rw [placesOf_concat placed known freshPlaces]
  simp [read, bind, Except.bind]

/-- Settings are read back from what they say as a layer. -/
theorem ofTree_layer (settings : Settings) :
    ofTree (Tree.overlayLayer (layer settings) (.table none [])) = .ok settings := by
  obtain ⟨tail, strict, format⟩ := settings
  cases tail <;> cases strict <;> cases format <;> exact ok_of_toOption (by decide +kernel)

/-- Where no layer has a file and none has to have one, the settings are the defaults. -/
theorem load_of_missing (missing : ∀ layer ∈ layers, layer.locate? files = none)
    (optional : ∀ layer ∈ layers, layer.required = false) : load files layers [] = .ok {} := by
  have silent : layers.mapM (Layer.read files) = .ok (layers.map fun _ => []) := by
    induction layers with
    | nil => rfl
    | cons layer layers ih =>
      obtain ⟨missing, others⟩ := List.forall_mem_cons.mp missing
      obtain ⟨optional, optionals⟩ := List.forall_mem_cons.mp optional
      have nothing : layer.read files = .ok [] := by
        simp [Layer.read, missing, Layer.read.absent, optional]
      rw [List.mapM_cons, nothing, ih others optionals]
      rfl
  have untouched (tree : Tree) :
      (layers.map fun _ => []).foldl (fun tree layer => tree.overlayLayer layer) tree = tree := by
    rw [List.foldl_map]
    exact List.foldl_fixed layers
  simp only [load, placesOf, List.foldlM_nil, pure, Except.pure, bind, Except.bind, silent,
    List.foldl_cons, untouched, List.foldl_nil]
  exact ofTree_layer {}

end Load

/-- A path that is tried with the ending put behind it has the ending. -/
theorem suffix_of_withEnding? {path name : String} (named : withEnding? path = some name) :
    ".toml".toList <:+ name.toList := by
  simp only [withEnding?] at named
  split at named
  · exact nomatch named
  · exact nomatch named
  · simp only [Option.some.injEq] at named
    rw [← named, String.toList_append]
    exact List.suffix_append ..

end Offside.Settings
