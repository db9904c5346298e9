import Offside.Proofs.Sources

/-! Keys that name no setting. Layers without them are laid over a tree side by side with the whole
layers; whatever counts among the settings of the whole is the same without them
(`Mirrors.overlayLayer`), so settings that load still load, and are the same (`ofTree_known`). -/

namespace Offside.Settings

open Tree

namespace Field

def all : List Field :=
  [blockTail, strictPlacement, format]

/-- Some setting of the section is at the step. -/
def isNamed (sectionName : String) (step : Step) : Bool :=
  all.any fun field => field.sectionName == sectionName &&
    match step with
    | .key name => lowercase name == field.entryName
    | .index i => i == field.position

end Field

/-- What is known of a value that is laid over a section, some steps down. -/
def knownValue? (sectionName : String) : List Step → Tree → Option Tree
  | [], .table origin? entries =>
    some (.table origin? (entries.filter fun entry => Field.isNamed sectionName (.key entry.1)))
  | [], value => some value
  | step :: _, value => if Field.isNamed sectionName step then some value else none

/-- What is known of an entry of a layer. -/
def knownPart? (entry : String × Tree) : Option (String × Tree) :=
  let path := KeyPath.ofKey entry.1
  if Field.all.any (·.sectionName == lowercase path.head) then
    (knownValue? (lowercase path.head) path.steps entry.2).map fun value => (entry.1, value)
  else none

def knownLayer (layer : List (String × Tree)) : List (String × Tree) :=
  layer.filterMap knownPart?

/-- The entry does not count the items of a section from the end. -/
def countsForward (entry : String × Tree) : Bool :=
  let path := KeyPath.ofKey entry.1
  match path.steps with
  | .index i :: _ => 0 ≤ i || !Field.all.any (·.sectionName == lowercase path.head)
  | _ => true

namespace Field

variable {field : Field} {own other value : Tree} {name : String}

/-- If the setting counts in the first section, it is the same in the second one, which is a list
just when the first one is. -/
def Mirrors (field : Field) (own other : Tree) : Prop :=
  Alive (field.within own) →
    field.within other = field.within own ∧ other.isList = own.isList

theorem Mirrors.refl (field : Field) (tree : Tree) : field.Mirrors tree tree :=
  fun _ => ⟨rfl, rfl⟩

section Changes

theorem Mirrors.set {here there : Tree} (mirrors : field.Mirrors own other)
    (same : name = field.entryName → there = here) :
    field.Mirrors (own.set name here) (other.set name there) := by
  intro alive
  refine ⟨?_, by simp⟩
  by_cases named : name = field.entryName
  · rw [same named, named, within_set_self, within_set_self]
  · rw [within_set_of_ne named] at alive ⊢
    rw [within_set_of_ne named]
    split at alive
    · exact absurd rfl alive.1
    · rename_i noList
      obtain ⟨within, list⟩ := mirrors alive
      rw [list, within, if_neg noList]

/-- A name that is not the setting's can be left out. -/
theorem Mirrors.set_left (mirrors : field.Mirrors own other) (unnamed : name ≠ field.entryName)
    (value : Tree) : field.Mirrors (own.set name value) other := by
  intro alive
  rw [within_set_of_ne unnamed] at alive ⊢
  split at alive
  · exact absurd rfl alive.1
  · rename_i noList
    obtain ⟨within, list⟩ := mirrors alive
    exact ⟨by rw [within, if_neg noList], by simpa using list.trans (by simpa using noList)⟩

theorem position_of_nonneg (forward : 0 ≤ i) (count : Nat) : Tree.position i count = i.toNat :=
  if_pos forward

theorem isList_alterItem (index : Int) (change : Tree → Tree) (tree : Tree) :
    (tree.alterItem index change).isList = true := by
  obtain ⟨_, list⟩ := alterItem_eq_list index change tree
  rw [list]
  rfl

/-- In a list the item of the setting stays when another one is changed. -/
theorem within_alterItem_stays {change : Tree → Tree}
    (apart : Tree.position index own.items.length ≠ field.position) (list : own.isList = true)
    (found : field.within own = some value) :
    field.within (own.alterItem index change) = some value := by
  cases own with
  | scalar | table => exact nomatch list
  | list origin? items =>
    obtain ⟨_, altered⟩ := alterItem_eq_list index change (.list origin? items)
    obtain ⟨inside, -⟩ := List.getElem?_eq_some_iff.mp found
    rw [altered, within_list, List.getElem?_modify_ne _ _ apart]
    exact (List.getElem?_append_left inside).trans found

theorem Mirrors.alterItem {change : Tree → Tree} (mirrors : field.Mirrors own other)
    (forward : 0 ≤ i) (given : i.toNat = field.position → ∃ value, change = fun _ => value) :
    field.Mirrors (own.alterItem i change) (other.alterItem i change) := by
  intro alive
  refine ⟨?_, by rw [isList_alterItem, isList_alterItem]⟩
  by_cases here : i.toNat = field.position
  · obtain ⟨value, rfl⟩ := given here
    rw [within_alterItem_self ((position_of_nonneg forward _).trans here),
      within_alterItem_self ((position_of_nonneg forward _).trans here)]
  · obtain ⟨list, same⟩ :=
      within_alterItem_of_ne (by rwa [position_of_nonneg forward]) alive
    rw [same] at alive ⊢
    obtain ⟨within, lists⟩ := mirrors alive
    obtain ⟨value, found⟩ := Option.ne_none_iff_exists'.mp alive.1
    rw [found] at within ⊢
    exact within_alterItem_stays (by rwa [position_of_nonneg forward]) (lists.trans list) within

/-- An item that is not the setting's can be left out. -/
theorem Mirrors.alterItem_left {change : Tree → Tree} (mirrors : field.Mirrors own other)
    (forward : 0 ≤ i) (apart : i.toNat ≠ field.position) :
    field.Mirrors (own.alterItem i change) other := by
  intro alive
  obtain ⟨list, same⟩ := within_alterItem_of_ne (by rwa [position_of_nonneg forward]) alive
  rw [same] at alive ⊢
  obtain ⟨within, lists⟩ := mirrors alive
  exact ⟨within, by rw [lists, list, isList_alterItem]⟩

end Changes

section Laying

theorem isNamed_key (named : lowercase name = field.entryName) :
    isNamed field.sectionName (.key name) = true := by
  cases field <;> simp [isNamed, all, named]

theorem isNamed_index (forward : 0 ≤ i) (here : i.toNat = field.position) :
    isNamed field.sectionName (.index i) = true := by
  obtain rfl : i = field.position := by omega
  cases field <;> decide

/-- Names that are not known can be left out of a table. -/
theorem Mirrors.overlayEntries {origin? : Option String} (entries : List (String × Tree))
    (scalars : ∀ value ∈ field.givenAt count [] (.table origin? entries), value.isScalar = true)
    (mirrors : field.Mirrors own other) :
    field.Mirrors (overlayEntries entries own)
      (overlayEntries (entries.filter fun entry => isNamed field.sectionName (.key entry.1))
        other) := by
  induction entries generalizing own other with
  | nil => exact mirrors
  | cons entry entries ih =>
    obtain ⟨key, value⟩ := entry
    have behind : ∀ value ∈ field.givenAt count [] (.table origin? entries),
        value.isScalar = true := by
      intro value member
      refine scalars value ?_
      simp only [givenAt, List.mem_filterMap] at member ⊢
      obtain ⟨entry, among, given⟩ := member
      exact ⟨entry, List.mem_cons_of_mem _ among, given⟩
    rw [Tree.overlayEntries, overlay_eq_set]
    by_cases named : isNamed field.sectionName (.key key) = true
    · rw [List.filter_cons, if_pos named, Tree.overlayEntries, overlay_eq_set]
      refine ih behind (mirrors.set fun own => ?_)
      have scalar : value.isScalar = true := by
        refine scalars value (List.mem_filterMap.mpr ⟨(key, value), List.mem_cons_self, ?_⟩)
        rw [if_pos own]
      rw [laid_of_isScalar scalar, laid_of_isScalar scalar]
    · rw [List.filter_cons, if_neg named]
      exact ih behind (mirrors.set_left (fun own => named (isNamed_key own)) _)

/-- A section that is not there is as good as an empty table. -/
theorem Mirrors.getD {own? other? : Option Tree}
    (mirrors : field.Mirrors (own?.getD null) (other?.getD null)) :
    field.Mirrors (own?.getD (.table none [])) (other?.getD (.table none [])) := by
  cases own? with
  | none => exact fun alive => absurd rfl alive.1
  | some own =>
    cases other? with
    | some other => exact mirrors
    | none =>
      intro alive
      exact absurd (mirrors alive).1.symm alive.1

variable {steps : List Step} {kept : Tree} {own? other? : Option Tree}

/-- What is known of a value is laid over the second section. -/
theorem Mirrors.laid
    (scalars : ∀ given ∈ field.givenAt (own?.getD null).items.length steps value,
      given.isScalar = true)
    (forward : ∀ i rest, steps = .index i :: rest → 0 ≤ i)
    (known : knownValue? field.sectionName steps value = some kept)
    (mirrors : field.Mirrors (own?.getD null) (other?.getD null)) :
    field.Mirrors (Tree.laid value steps own?) (Tree.laid kept steps other?) := by
  cases steps with
  | nil =>
    cases value with
    | table origin? entries =>
      obtain rfl := Option.some.inj known
      exact mirrors.getD.overlayEntries entries scalars
    | scalar | list =>
      obtain rfl := Option.some.inj known
      exact .refl _ _
  | cons step rest =>
    have same : value = kept := by
      rw [knownValue?] at known
      split at known
      · exact Option.some.inj known
      · simp at known
    subst same
    rw [laid_cons, laid_cons]
    cases step with
    | key name =>
      rw [overlaySteps_key, overlaySteps_key]
      refine mirrors.set fun named => ?_
      have whole := scalars (overlaySteps value rest null) (by simp [givenAt, named])
      obtain ⟨rfl, scalar⟩ := isScalar_overlaySteps whole
      rw [laid_of_isScalar scalar, laid_of_isScalar scalar]
    | index i =>
      have front := forward i rest rfl
      rw [overlaySteps, overlaySteps]
      refine mirrors.alterItem front fun here => ?_
      have whole := scalars (overlaySteps value rest null)
        (by simp [givenAt, position_of_nonneg front, here])
      obtain ⟨rfl, -⟩ := isScalar_overlaySteps whole
      exact ⟨value, rfl⟩

/-- A value of which nothing is known can be left out. -/
theorem Mirrors.laid_left (forward : ∀ i rest, steps = .index i :: rest → 0 ≤ i)
    (unknown : knownValue? field.sectionName steps value = none)
    (mirrors : field.Mirrors (own?.getD null) other) :
    field.Mirrors (Tree.laid value steps own?) other := by
  cases steps with
  | nil => cases value <;> simp [knownValue?] at unknown
  | cons step rest =>
    have unnamed : ¬isNamed field.sectionName step = true := by
      intro named
      simp [knownValue?, named] at unknown
    rw [laid_cons]
    cases step with
    | key name =>
      rw [overlaySteps_key]
      exact mirrors.set_left (fun named => unnamed (isNamed_key named)) _
    | index i =>
      have front := forward i rest rfl
      rw [overlaySteps]
      exact mirrors.alterItem_left front fun here => unnamed (isNamed_index front here)

end Laying

section Layers

variable {entry kept : String × Tree}

theorem any_sectionName (field : Field) : all.any (·.sectionName == field.sectionName) = true := by
  cases field <;> decide

/-- What is known of an entry is under the key of the entry, and known of its value. -/
theorem knownPart?_eq_some (known : knownPart? entry = some kept) :
    kept.1 = entry.1 ∧
      knownValue? (lowercase (KeyPath.ofKey entry.1).head) (KeyPath.ofKey entry.1).steps entry.2 =
        some kept.2 := by
  dsimp only [knownPart?] at known
  split at known
  · obtain ⟨value, of, rfl⟩ := Option.map_eq_some_iff.mp known
    exact ⟨rfl, of⟩
  · simp at known

theorem knownPart?_eq_none (unknown : knownPart? entry = none)
    (here : lowercase (KeyPath.ofKey entry.1).head = field.sectionName) :
    knownValue? field.sectionName (KeyPath.ofKey entry.1).steps entry.2 = none := by
  unfold knownPart? at unknown
  simpa [here, any_sectionName] using unknown

theorem nonneg_of_countsForward (forward : countsForward entry = true)
    (here : lowercase (KeyPath.ofKey entry.1).head = field.sectionName) :
    ∀ i rest, (KeyPath.ofKey entry.1).steps = .index i :: rest → 0 ≤ i := by
  intro i rest steps
  simpa [countsForward, steps, here, any_sectionName] using forward

theorem Mirrors.overlayEntry
    (scalars : ∀ value ∈ field.given own entry, value.isScalar = true)
    (forward : countsForward entry = true) (known : knownPart? entry = some kept)
    (mirrors : field.Mirrors (field.sectionOf own) (field.sectionOf other)) :
    field.Mirrors (field.sectionOf (own.overlayEntry entry))
      (field.sectionOf (other.overlayEntry kept)) := by
  obtain ⟨key, value⟩ := knownPart?_eq_some known
  rw [sectionOf_overlayEntry, sectionOf_overlayEntry, key]
  by_cases here : lowercase (KeyPath.ofKey entry.1).head = field.sectionName
  · rw [if_pos here, if_pos here]
    rw [given, if_pos here] at scalars
    exact mirrors.laid scalars (nonneg_of_countsForward forward here) (here ▸ value)
  · rw [if_neg here, if_neg here]
    exact mirrors

theorem Mirrors.overlayEntry_left (forward : countsForward entry = true)
    (unknown : knownPart? entry = none)
    (mirrors : field.Mirrors (field.sectionOf own) (field.sectionOf other)) :
    field.Mirrors (field.sectionOf (own.overlayEntry entry)) (field.sectionOf other) := by
  rw [sectionOf_overlayEntry]
  by_cases here : lowercase (KeyPath.ofKey entry.1).head = field.sectionName
  · rw [if_pos here]
    exact Mirrors.laid_left (nonneg_of_countsForward forward here)
      (knownPart?_eq_none unknown here) mirrors
  · rw [if_neg here]
    exact mirrors

theorem Mirrors.overlayLayer (layer : List (String × Tree))
    (scalars : ∀ value ∈ field.givenBy own layer, value.isScalar = true)
    (forward : ∀ entry ∈ layer, countsForward entry = true)
    (mirrors : field.Mirrors (field.sectionOf own) (field.sectionOf other)) :
    field.Mirrors (field.sectionOf (own.overlayLayer layer))
      (field.sectionOf (other.overlayLayer (knownLayer layer))) := by
  induction layer generalizing own other with
  | nil => exact mirrors
  | cons entry layer ih =>
    rw [givenBy] at scalars
    obtain ⟨here, behind⟩ := List.forall_mem_append.mp scalars
    obtain ⟨front, forward⟩ := List.forall_mem_cons.mp forward
    rw [overlayLayer_cons, knownLayer, List.filterMap_cons]
    cases known : knownPart? entry with
    | none => exact ih behind forward (mirrors.overlayEntry_left front known)
    | some kept =>
      rw [overlayLayer_cons]
      exact ih behind forward (mirrors.overlayEntry here front known)

theorem Mirrors.foldl (layers : List (List (String × Tree)))
    (scalars : ∀ given ∈ field.sources own layers, ∀ value ∈ given, value.isScalar = true)
    (forward : ∀ layer ∈ layers, ∀ entry ∈ layer, countsForward entry = true)
    (mirrors : field.Mirrors (field.sectionOf own) (field.sectionOf other)) :
    field.Mirrors
      (field.sectionOf (layers.foldl (fun tree layer => tree.overlayLayer layer) own))
      (field.sectionOf
        ((layers.map knownLayer).foldl (fun tree layer => tree.overlayLayer layer) other)) := by
  induction layers generalizing own other with
  | nil => exact mirrors
  | cons layer layers ih =>
    rw [sources] at scalars
    obtain ⟨here, behind⟩ := List.forall_mem_cons.mp scalars
    obtain ⟨front, forward⟩ := List.forall_mem_cons.mp forward
    exact ih behind forward (mirrors.overlayLayer layer here front)

end Layers

end Field

/-- Settings that load are the same without the keys that name no setting. -/
theorem ofTree_known {settings : Settings} (layers : List (List (String × Tree)))
    (scalars : ∀ field : Field, ∀ given ∈ field.sources (.table none []) layers,
      ∀ value ∈ given, value.isScalar = true)
    (forward : ∀ layer ∈ layers, ∀ entry ∈ layer, countsForward entry = true)
    (loaded : ofTree (layers.foldl (fun tree layer => tree.overlayLayer layer) (.table none [])) =
      .ok settings) :
    ofTree ((layers.map knownLayer).foldl (fun tree layer => tree.overlayLayer layer)
      (.table none [])) = .ok settings := by
  rw [Field.ofTree_eq_ok_iff_reads] at loaded ⊢
  intro field
  obtain ⟨value, found, reads⟩ := loaded field
  have mirrors := Field.Mirrors.foldl layers (scalars field) forward
    (.refl field (field.sectionOf (.table none [])))
  have alive : Field.Alive (field.of
      (layers.foldl (fun tree layer => tree.overlayLayer layer) (.table none []))) := by
    rw [found]
    exact ⟨by simp, by simpa using reads.ne_null⟩
  exact ⟨value, (mirrors alive).1.trans found, reads⟩

end Offside.Settings
