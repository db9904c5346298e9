import Offside.Files
import Offside.Settings.KeyPath
import Offside.Settings.Typed
import Offside.Toml.Document

/-!
# Layers of settings

Settings come from layers that lie on top of each other: the defaults, then files, then single
overrides. What a higher layer says wins.
-/

namespace Offside.Settings

/-- A file of settings. -/
structure Layer where
  /-- The path of the file; the ending may be left out. -/
  path : String
  required : Bool
deriving DecidableEq, Repr

/-- A value for one place of the tree. -/
structure Override where
  key : String
  value : Tree

/-- The path with the ending of documents behind it; it has to end in the name of a file. -/
def withEnding? (path : String) : Option String :=
  let names := pathNames path
  match names.getLast? with
  | none | some ".." => none
  | some _ =>
    some ((if path.startsWith "/" then "/" else "") ++ "/".intercalate names ++ ".toml")

/-- The path under which a layer finds its file: the path as it is, else with the ending. -/
def Layer.locate? (files : Files) (layer : Layer) : Option String :=
  let isFile (path : String) := ((files path).map FileContent.isFile).getD false
  if isFile layer.path then some layer.path
  else (withEnding? layer.path).filter isFile

/-- The name that values of a file remember: its path without detours that lead nowhere. -/
def originName (path : String) : String :=
  "/".intercalate (pathNames path)

/-- What a layer says. A file that is not there says nothing, unless it is required; one that is
there has to be a document. -/
def Layer.read (files : Files) (layer : Layer) : Except Refusal (List (String × Tree)) :=
  match layer.locate? files with
  | none => absent
  | some path =>
    match (files path).bind FileContent.text? with
    | none => absent
    | some content =>
      match Toml.Document.read? content with
      | some entries => .ok (Tree.ofTomlEntries (some (originName path)) entries)
      | none => .error (.malformedFile path)
where
  absent := if layer.required then .error (.unreadableFile layer.path) else .ok []

/-- The places and values of overrides. A place that is overridden again takes the last value. -/
def placesOf (overrides : List Override) : Except Refusal (List (KeyPath × Tree)) :=
  overrides.foldlM (fun places change =>
    match KeyPath.ofText? change.key with
    | some path => .ok (places.filter (·.1 != path) ++ [(path, change.value)])
    | none => .error (.malformedKey change.key)) []

/-- The settings that the defaults, the layers and the overrides add up to. Keys of overrides are
looked at before any file is. -/
def load (files : Files) (layers : List Layer) (overrides : List Override) :
    Except Refusal Settings := do
  let places ← placesOf overrides
  let layers ← layers.mapM (Layer.read files)
  let tree := (layer {} :: layers).foldl (fun tree layer => tree.overlayLayer layer) (.table none [])
  ofTree (places.foldl (fun tree (path, value) => tree.overlayAt path value) tree)

end Offside.Settings
