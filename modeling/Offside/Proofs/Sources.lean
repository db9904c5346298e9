import Offside.Proofs.Overrides

/-! Where a setting comes from. What a layer gives a setting can be told from the keys of the layer
(`Field.given`), and the setting ends up with what it was given last, or is lost
(`Field.follows_foldl`). Settings do not load with one of them lost
(`Field.ofTree_eq_ok_iff_reads`), so those that load have what the strongest source gives
(`Field.reads_source`). -/

namespace Offside.Settings

/-- A setting, by its place. -/
inductive Field where
  | blockTail
  | strictPlacement
  | format
deriving DecidableEq, Repr

/-- The path that a key of a layer is. A key that does not read as a path is a key of its own. -/
def KeyPath.ofKey (key : String) : KeyPath :=
  (KeyPath.ofText? key).getD ⟨key, []⟩

namespace Tree

def isList : Tree → Bool
  | .list .. => true
  | _ => false

def isScalar : Tree → Bool
  | .scalar .. => true
  | _ => false

/-- What comes to lie at a place when a value is laid over it some steps down. -/
def laid (value : Tree) (steps : List Step) (below? : Option Tree) : Tree :=
  match steps, value with
  | [], .table _ entries => overlayEntries entries (below?.getD (.table none []))
  | [], value => value
  | steps, value => overlaySteps value steps (below?.getD null)

/-- Lays one entry of a layer over a tree. -/
def overlayEntry (tree : Tree) (entry : String × Tree) : Tree :=
  tree.overlayAt (KeyPath.ofKey entry.1) entry.2

end Tree

namespace Field

open Tree

def sectionName : Field → String
  | blockTail | strictPlacement => "comments"
  | format => "output"

def entryName : Field → String
  | blockTail => "block_tail"
  | strictPlacement => "strict_placement"
  | format => "format"

/-- The place of a setting in a section that is a list. -/
def position : Field → Nat
  | blockTail | format => 0
  | strictPlacement => 1

/-- What a section has for the setting: by name in a table, by position in a list. -/
def within (field : Field) : Tree → Option Tree
  | .table _ entries => entries.lookup field.entryName
  | .list _ items => items[field.position]?
  | .scalar .. => none

/-- The section of the setting. -/
def sectionOf (field : Field) (tree : Tree) : Tree :=
  (tree.get? field.sectionName).getD null

/-- What a tree has for the setting. -/
def of (field : Field) (tree : Tree) : Option Tree :=
  field.within (field.sectionOf tree)

/-- What the setting is given by a value that is laid over its section, some steps down. The section
has `count` items, if it is a list. -/
def givenAt (field : Field) (count : Nat) : List Step → Tree → List Tree
  | [], .table _ entries =>
    entries.filterMap fun entry =>
      if lowercase entry.1 = field.entryName then some entry.2 else none
  | [], value => (field.within value).toList
  | .key name :: rest, value =>
    if lowercase name = field.entryName then [overlaySteps value rest null] else []
  | .index i :: rest, value =>
    if Tree.position i count = field.position then [overlaySteps value rest null] else []

/-- What the setting is given by an entry of a layer. -/
def given (field : Field) (tree : Tree) (entry : String × Tree) : List Tree :=
  let path := KeyPath.ofKey entry.1
  if lowercase path.head = field.sectionName then
    field.givenAt (field.sectionOf tree).items.length path.steps entry.2
  else []

def givenBy (field : Field) (tree : Tree) : List (String × Tree) → List Tree
  | [] => []
  | entry :: layer => field.given tree entry ++ field.givenBy (tree.overlayEntry entry) layer

/-- What the setting is given by each of the layers that are laid over a tree. -/
def sources (field : Field) (tree : Tree) : List (List (String × Tree)) → List (List Tree)
  | [] => []
  | layer :: layers => field.givenBy tree layer :: field.sources (tree.overlayLayer layer) layers

/-- The tree stands for the value that the setting has. -/
def Reads (field : Field) (settings : Settings) (tree : Tree) : Prop :=
  match field with
  | blockTail => commentTails.ofTree tree = .ok settings.blockTail
  | strictPlacement => ∃ key, truthOfTree key tree = .ok settings.strictPlacement
  | format => outputFormats.ofTree tree = .ok settings.format

end Field

namespace Tree

variable {tree value : Tree} {name : String} {steps : List Step}

theorem overlay_eq_set (key : String) (value below : Tree) :
    overlay key value below =
      below.set (lowercase key) (laid value [] (below.get? (lowercase key))) := by
  cases value with
  | scalar | list => rw [overlay] <;> simp [laid]
  | table => rw [overlay]; rfl

theorem overlaySteps_key (value : Tree) (name : String) (steps : List Step) (tree : Tree) :
    overlaySteps value (.key name :: steps) tree =
      tree.set (lowercase name) (laid value steps (tree.get? (lowercase name))) := by
  cases steps with
  | nil => rw [overlaySteps, overlay_eq_set]
  | cons step steps => rw [overlaySteps] <;> simp [laid]

theorem overlayLayer_nil (tree : Tree) : tree.overlayLayer [] = tree := rfl

theorem overlayLayer_cons (entry : String × Tree) (layer : List (String × Tree)) (tree : Tree) :
    tree.overlayLayer (entry :: layer) = (tree.overlayEntry entry).overlayLayer layer := by
  obtain ⟨key, value⟩ := entry
  simp only [overlayLayer, List.foldl_cons, overlayEntry, KeyPath.ofKey]
  cases KeyPath.ofText? key <;> rfl

theorem laid_cons (value : Tree) (step : Step) (steps : List Step) (below? : Option Tree) :
    laid value (step :: steps) below? = overlaySteps value (step :: steps) (below?.getD null) := by
  cases value <;> rfl

/-- A scalar that is laid over a place takes all of it. -/
theorem laid_of_isScalar (scalar : value.isScalar = true) (below? : Option Tree) :
    laid value [] below? = value := by
  cases value with
  | scalar => rfl
  | list | table => simp [isScalar] at scalar

/-- Only whole values are scalars. -/
theorem isScalar_overlaySteps (scalar : (overlaySteps value steps tree).isScalar = true) :
    steps = [] ∧ value.isScalar = true := by
  cases steps with
  | nil => exact ⟨rfl, scalar⟩
  | cons step steps =>
    cases step with
    | key name =>
      obtain ⟨_, table⟩ := set_eq_table tree (lowercase name)
        (laid value steps (tree.get? (lowercase name)))
      rw [overlaySteps_key, table] at scalar
      simp [isScalar] at scalar
    | index i =>
      rw [overlaySteps] at scalar
      cases tree <;> simp [alterItem, isScalar] at scalar

end Tree

namespace Field

open Tree

/-- Something is there, and not only to fill up a list. -/
def Alive (found : Option Tree) : Prop :=
  found ≠ none ∧ found ≠ some null

/-- What was given last is there now, and with nothing given what was there before; or the setting
is lost. -/
def Follows (before : Option Tree) (given : List Tree) (after : Option Tree) : Prop :=
  Alive after → after = given.getLast?.or before

variable {field : Field} {settings : Settings} {tree below value : Tree} {name : String}

section Changes

theorem within_set_self (field : Field) (below value : Tree) :
    field.within (below.set field.entryName value) = some value := by
  obtain ⟨_, table⟩ := set_eq_table below field.entryName value
  rw [table]
  exact get?_set_self below field.entryName value

/-- Setting a name makes a table of a list; in a table the other names stay. -/
theorem within_set_of_ne (other : name ≠ field.entryName) (below value : Tree) :
    field.within (below.set name value) = if below.isList then none else field.within below := by
  obtain ⟨_, table⟩ := set_eq_table below name value
  have found : field.within (below.set name value) = below.get? field.entryName := by
    rw [table]
    exact get?_set_of_ne below value other.symm
  rw [found]
  cases below <;> rfl

@[simp] theorem isList_set (below value : Tree) : (below.set name value).isList = false := by
  obtain ⟨_, table⟩ := set_eq_table below name value
  rw [table]
  rfl

theorem within_list (field : Field) (origin? : Option String) (items : List Tree) :
    field.within (.list origin? items) = items[field.position]? := rfl

theorem alterItem_eq_list (index : Int) (change : Tree → Tree) (below : Tree) :
    ∃ origin?, below.alterItem index change = .list origin?
      ((below.items ++ List.replicate
        (Tree.position index below.items.length + 1 - below.items.length) null).modify
          (Tree.position index below.items.length) change) := by
  cases below <;> exact ⟨_, rfl⟩

theorem within_alterItem_self (here : Tree.position index below.items.length = field.position) :
    field.within (below.alterItem index fun _ => value) = some value := by
  obtain ⟨_, list⟩ := alterItem_eq_list index (fun _ => value) below
  rw [list, within_list, here, List.getElem?_modify_eq]
  have inside : field.position < (below.items ++
      List.replicate (field.position + 1 - below.items.length) null).length := by
    simp only [List.length_append, List.length_replicate]
    omega
  rw [List.getElem?_eq_getElem inside]
  rfl

/-- Changing an item makes a list of a table; in a list the other items stay, and what is filled in
does not count. -/
theorem within_alterItem_of_ne {change : Tree → Tree}
    (other : Tree.position index below.items.length ≠ field.position)
    (alive : Alive (field.within (below.alterItem index change))) :
    below.isList = true ∧ field.within (below.alterItem index change) = field.within below := by
  obtain ⟨_, list⟩ := alterItem_eq_list index change below
  rw [list, within_list, List.getElem?_modify_ne _ _ other] at alive ⊢
  rcases Nat.lt_or_ge field.position below.items.length with inside | beyond
  · rw [List.getElem?_append_left inside]
    cases below with
    | list => exact ⟨rfl, rfl⟩
    | scalar | table => simp [items] at inside
  · rw [List.getElem?_append_right beyond, List.getElem?_replicate] at alive
    split at alive
    · exact absurd rfl alive.2
    · exact absurd rfl alive.1

end Changes

section Following

variable {before between after : Option Tree} {first second : List Tree}

theorem Follows.refl (found : Option Tree) : Follows found [] found :=
  fun _ => rfl

theorem Follows.trans (earlier : Follows before first between)
    (later : Follows between second after) : Follows before (first ++ second) after := by
  intro alive
  have now := later alive
  rw [List.getLast?_append, Option.or_assoc]
  cases last : second.getLast? with
  | some value => simpa [last] using now
  | none =>
    rw [last, Option.none_or] at now
    subst now
    exact earlier alive

theorem follows_set_of_ne (other : name ≠ field.entryName) (below value : Tree) :
    Follows (field.within below) [] (field.within (below.set name value)) := by
  intro alive
  rw [within_set_of_ne other] at alive ⊢
  split at alive
  · exact absurd rfl alive.1
  · rename_i noList
    rw [if_neg noList]
    rfl

/-- Entries of a table that are laid over a section, one after the other. -/
theorem follows_overlayEntries {origin? : Option String} (entries : List (String × Tree))
    (scalars : ∀ value ∈ field.givenAt count [] (.table origin? entries), value.isScalar = true)
    (below : Tree) :
    Follows (field.within below) (field.givenAt count [] (.table origin? entries))
      (field.within (overlayEntries entries below)) := by
  induction entries generalizing below with
  | nil => exact .refl _
  | cons entry entries ih =>
    obtain ⟨key, value⟩ := entry
    rw [overlayEntries, overlay_eq_set]
    by_cases named : lowercase key = field.entryName
    · have split : field.givenAt count [] (.table origin? ((key, value) :: entries)) =
          value :: field.givenAt count [] (.table origin? entries) := by
        simp [givenAt, named]
      rw [split] at scalars ⊢
      obtain ⟨scalar, others⟩ := List.forall_mem_cons.mp scalars
      have here : Follows (field.within below) [value]
          (field.within (below.set (lowercase key)
            (laid value [] (below.get? (lowercase key))))) := by
        intro _
        rw [named, within_set_self, laid_of_isScalar scalar]
        rfl
      exact here.trans (ih others _)
    · have split : field.givenAt count [] (.table origin? ((key, value) :: entries)) =
          field.givenAt count [] (.table origin? entries) := by
        simp [givenAt, named]
      rw [split] at scalars ⊢
      exact (follows_set_of_ne named _ _).trans (ih scalars _)

/-- A value that is laid over a section. -/
theorem follows_laid (steps : List Step) (value : Tree) (below? : Option Tree)
    (scalars : ∀ given ∈ field.givenAt (below?.getD null).items.length steps value,
      given.isScalar = true) :
    Follows (field.within (below?.getD null))
      (field.givenAt (below?.getD null).items.length steps value)
      (field.within (laid value steps below?)) := by
  cases steps with
  | nil =>
    cases value with
    | table origin? entries =>
      have same : field.within (below?.getD null) =
          field.within (below?.getD (.table none [])) := by
        cases below? <;> rfl
      rw [same]
      exact follows_overlayEntries entries scalars _
    | scalar origin? own => exact fun alive => absurd rfl alive.1
    | list origin? items =>
      intro alive
      cases found : field.within (.list origin? items) with
      | none => exact absurd found alive.1
      | some item => simp [laid, givenAt, found]
  | cons step rest =>
    rw [laid_cons]
    generalize below?.getD null = below at scalars ⊢
    cases step with
    | key name =>
      rw [overlaySteps_key]
      by_cases named : lowercase name = field.entryName
      · simp only [givenAt, if_pos named, List.forall_mem_singleton] at scalars ⊢
        obtain ⟨rfl, scalar⟩ := isScalar_overlaySteps scalars
        intro _
        rw [named, within_set_self, laid_of_isScalar scalar]
        rfl
      · simp only [givenAt, if_neg named]
        exact follows_set_of_ne named _ _
    | index i =>
      rw [overlaySteps]
      by_cases here : Tree.position i below.items.length = field.position
      · simp only [givenAt, if_pos here, List.forall_mem_singleton] at scalars ⊢
        obtain ⟨rfl, -⟩ := isScalar_overlaySteps scalars
        intro _
        exact within_alterItem_self here
      · simp only [givenAt, if_neg here]
        exact fun alive => (within_alterItem_of_ne here alive).2

/-- Only entries for the section of a setting get at it. -/
theorem sectionOf_overlayEntry (field : Field) (tree : Tree) (entry : String × Tree) :
    field.sectionOf (tree.overlayEntry entry) =
      if lowercase (KeyPath.ofKey entry.1).head = field.sectionName then
        laid entry.2 (KeyPath.ofKey entry.1).steps (tree.get? field.sectionName)
      else field.sectionOf tree := by
  rw [sectionOf, overlayEntry, overlayAt, overlaySteps_key]
  by_cases here : lowercase (KeyPath.ofKey entry.1).head = field.sectionName
  · rw [if_pos here, here, get?_set_self]
    rfl
  · rw [if_neg here, get?_set_of_ne _ _ (Ne.symm here)]
    rfl

theorem follows_overlayEntry (tree : Tree) (entry : String × Tree)
    (scalars : ∀ value ∈ field.given tree entry, value.isScalar = true) :
    Follows (field.of tree) (field.given tree entry) (field.of (tree.overlayEntry entry)) := by
  unfold given at scalars ⊢
  simp only [of, sectionOf_overlayEntry]
  by_cases here : lowercase (KeyPath.ofKey entry.1).head = field.sectionName
  · rw [if_pos here] at scalars
    rw [if_pos here, if_pos here]
    exact follows_laid _ _ _ scalars
  · rw [if_neg here, if_neg here]
    exact .refl _

theorem follows_overlayLayer (layer : List (String × Tree)) (tree : Tree)
    (scalars : ∀ value ∈ field.givenBy tree layer, value.isScalar = true) :
    Follows (field.of tree) (field.givenBy tree layer) (field.of (tree.overlayLayer layer)) := by
  induction layer generalizing tree with
  | nil => exact .refl _
  | cons entry layer ih =>
    rw [givenBy] at scalars ⊢
    obtain ⟨here, behind⟩ := List.forall_mem_append.mp scalars
    rw [overlayLayer_cons]
    exact (follows_overlayEntry tree entry here).trans (ih _ behind)

/-- A setting has what the layers gave it last, or it is lost. -/
theorem follows_foldl (layers : List (List (String × Tree))) (tree : Tree)
    (scalars : ∀ given ∈ field.sources tree layers, ∀ value ∈ given, value.isScalar = true) :
    Follows (field.of tree) (field.sources tree layers).flatten
      (field.of (layers.foldl (fun tree layer => tree.overlayLayer layer) tree)) := by
  induction layers generalizing tree with
  | nil => exact .refl _
  | cons layer layers ih =>
    rw [sources] at scalars ⊢
    obtain ⟨here, behind⟩ := List.forall_mem_cons.mp scalars
    rw [List.flatten_cons, List.foldl_cons]
    exact (follows_overlayLayer layer tree here).trans (ih _ behind)

end Following

section Reading

/-- Both settings of a section that can be read are there. -/
theorem within_of_commentsOfTree {tail : CommentTail} {strict : Bool}
    (passed : commentsOfTree tree = .ok (tail, strict)) :
    (∃ value, blockTail.within tree = some value ∧ commentTails.ofTree value = .ok tail) ∧
      ∃ value key, strictPlacement.within tree = some value ∧
        truthOfTree key value = .ok strict := by
  unfold commentsOfTree at passed
  split at passed
  · simp only [bind_eq_ok_iff, needed_eq_ok_iff] at passed
    obtain ⟨_, readTail, _, readStrict, _, rfl, _, rfl, same⟩ := passed
    obtain ⟨tailTree, foundTail, passedTail⟩ := mapM_eq_some_iff.mp readTail
    obtain ⟨strictTree, foundStrict, passedStrict⟩ := mapM_eq_some_iff.mp readStrict
    cases same
    exact ⟨⟨tailTree, foundTail, passedTail⟩, strictTree, _, foundStrict, passedStrict⟩
  · rename_i tailTree strictTree _
    simp only [bind_eq_ok_iff] at passed
    obtain ⟨_, passedTail, _, passedStrict, same⟩ := passed
    cases same
    exact ⟨⟨tailTree, rfl, passedTail⟩, strictTree, _, rfl, passedStrict⟩
  · simp only [bind_eq_ok_iff] at passed
    obtain ⟨_, _, refused⟩ := passed
    exact nomatch refused
  · exact nomatch passed
  · exact nomatch passed

theorem within_of_outputOfTree {written : OutputFormat}
    (passed : outputOfTree tree = .ok written) :
    ∃ value, format.within tree = some value ∧ outputFormats.ofTree value = .ok written := by
  unfold outputOfTree at passed
  split at passed
  · simp only [bind_eq_ok_iff, needed_eq_ok_iff] at passed
    obtain ⟨_, read, rfl⟩ := passed
    exact mapM_eq_some_iff.mp read
  · rename_i value _
    exact ⟨value, rfl, passed⟩
  · exact nomatch passed
  · exact nomatch passed

/-- The key of a truth value matters only for what is said of others. -/
theorem truthOfTree_key {key : String} (passed : truthOfTree key tree = .ok strict)
    (other : String) : truthOfTree other tree = .ok strict := by
  cases tree with
  | list | table => exact nomatch passed
  | scalar origin? own =>
    cases own with
    | null => exact nomatch passed
    | bool | int | float => exact passed
    | text s =>
      rw [truthOfTree] at passed ⊢
      split at passed
      · exact passed
      · exact nomatch passed

/-- A section can be read that has both settings. -/
theorem commentsOfTree_of_within {tail : CommentTail} {strict : Bool} {key : String}
    {tailTree strictTree : Tree} (foundTail : blockTail.within tree = some tailTree)
    (passedTail : commentTails.ofTree tailTree = .ok tail)
    (foundStrict : strictPlacement.within tree = some strictTree)
    (passedStrict : truthOfTree key strictTree = .ok strict) :
    commentsOfTree tree = .ok (tail, strict) := by
  cases tree with
  | scalar => exact nomatch foundTail
  | table origin? entries =>
    simp only [commentsOfTree, bind_eq_ok_iff, needed_eq_ok_iff]
    exact ⟨_, mapM_eq_some_iff.mpr ⟨_, foundTail, passedTail⟩, _,
      mapM_eq_some_iff.mpr ⟨_, foundStrict, truthOfTree_key passedStrict _⟩, _, rfl, _, rfl, rfl⟩
  | list origin? items =>
    cases items with
    | nil => simp [within] at foundTail
    | cons first rest =>
      cases rest with
      | nil => simp [within, position] at foundStrict
      | cons second rest =>
        obtain rfl : first = tailTree := by simpa [within, position] using foundTail
        obtain rfl : second = strictTree := by simpa [within, position] using foundStrict
        simp only [commentsOfTree, bind_eq_ok_iff]
        exact ⟨_, passedTail, _, truthOfTree_key passedStrict _, rfl⟩

theorem outputOfTree_of_within {written : OutputFormat}
    (found : format.within tree = some value) (passed : outputFormats.ofTree value = .ok written) :
    outputOfTree tree = .ok written := by
  cases tree with
  | scalar => exact nomatch found
  | table origin? entries =>
    simp only [outputOfTree, bind_eq_ok_iff, needed_eq_ok_iff]
    exact ⟨_, mapM_eq_some_iff.mpr ⟨_, found, passed⟩, rfl⟩
  | list origin? items =>
    cases items with
    | nil => simp [within] at found
    | cons first rest =>
      obtain rfl : first = value := by simpa [within, position] using found
      exact passed

/-- What is there for a setting is in its section. -/
theorem get?_of_within (found : field.of tree = some value) :
    tree.get? field.sectionName = some (field.sectionOf tree) := by
  unfold of sectionOf at found
  unfold sectionOf
  cases present : tree.get? field.sectionName with
  | none => simp [present, within, null] at found
  | some sec => rfl

/-- Settings load that have lost none, and only those. -/
theorem ofTree_eq_ok_iff_reads :
    ofTree tree = .ok settings ↔
      ∀ field : Field, ∃ value, field.of tree = some value ∧ field.Reads settings value := by
  rw [ofTree_eq_ok_iff]
  constructor
  · rintro ⟨comments, output, foundComments, passedComments, foundOutput, passedOutput⟩ field
    obtain ⟨readsTail, value, key, found, passed⟩ := within_of_commentsOfTree passedComments
    cases field with
    | blockTail => simpa [of, sectionOf, sectionName, foundComments, Reads] using readsTail
    | strictPlacement =>
      refine ⟨value, ?_, key, passed⟩
      simpa [of, sectionOf, sectionName, foundComments] using found
    | format =>
      simpa [of, sectionOf, sectionName, foundOutput, Reads] using
        within_of_outputOfTree passedOutput
  · intro reads
    obtain ⟨tailTree, foundTail, passedTail⟩ := reads .blockTail
    obtain ⟨strictTree, foundStrict, key, passedStrict⟩ := reads .strictPlacement
    obtain ⟨formatTree, foundFormat, passedFormat⟩ := reads .format
    exact ⟨_, _, get?_of_within foundTail,
      commentsOfTree_of_within foundTail passedTail foundStrict passedStrict,
      get?_of_within foundFormat, outputOfTree_of_within foundFormat passedFormat⟩

theorem Reads.ne_null (reads : field.Reads settings value) : value ≠ null := by
  rintro rfl
  cases field with
  | blockTail | format => exact nomatch reads
  | strictPlacement =>
    obtain ⟨key, passed⟩ := reads
    exact nomatch passed

/-- Settings that load have what the strongest layer gives that gives them anything. -/
theorem reads_source {layers : List (List (String × Tree))}
    (scalars : ∀ given ∈ field.sources (.table none []) layers,
      ∀ value ∈ given, value.isScalar = true)
    (loaded : ofTree (layers.foldl (fun tree layer => tree.overlayLayer layer) (.table none [])) =
      .ok settings) :
    ∃ value, (field.sources (.table none []) layers).flatten.getLast? = some value ∧
      field.Reads settings value := by
  obtain ⟨value, found, reads⟩ := ofTree_eq_ok_iff_reads.mp loaded field
  have follows := follows_foldl layers (.table none []) scalars
  rw [found] at follows
  have empty : field.of (.table none []) = none := by cases field <;> rfl
  have last := follows ⟨by simp, by simpa using reads.ne_null⟩
  rw [empty, Option.or_none] at last
  exact ⟨value, last.symm, reads⟩

end Reading

end Field

end Offside.Settings
