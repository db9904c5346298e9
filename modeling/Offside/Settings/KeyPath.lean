import Offside.Settings.Tree
import Offside.Text.Reader

/-!
# Paths of keys

A path names a place in a tree of settings: a key, then further keys behind points and indices in
brackets.
-/

namespace Offside.Settings

open Reader

/-- A step down from a place in a tree. -/
inductive Step where
  | key (name : String)
  /-- To an item of a list; a negative index counts from the end. -/
  | index (i : Int)
deriving DecidableEq, Repr

/-- A place in a tree. -/
structure KeyPath where
  head : String
  steps : List Step := []
deriving DecidableEq, Repr

namespace KeyPath

def isKeyChar (c : Char) : Bool :=
  c.isAlphanum || c == '_' || c == '-' || c == ' '

def key : Reader String := do
  return String.ofList (← run1 isKeyChar)

/-- An index, which 64 bits with a sign have to hold. -/
def index : Reader Int := do
  discard (run Toml.isBlankChar)
  let negative := (← optional? (char '-')).isSome
  let magnitude : Int := Toml.ofDigits 10 (← run1 Char.isDigit)
  discard (run Toml.isBlankChar)
  let n := if negative then -magnitude else magnitude
  require (Toml.fits n)
  return n

def step : Reader Step :=
  (do char '.'; return .key (← key)) <|>
  (do char '['; let i ← index; char ']'; return .index i)

def ofText? (text : String) : Option KeyPath :=
  whole? (do return { head := ← key, steps := ← many step }) text.toList

end KeyPath

namespace Tree

/-- Lays a value over the place some steps down. What is missing on the way comes about, and what
stands in the way gives way. -/
def overlaySteps (value : Tree) : List Step → Tree → Tree
  | [], _ => value
  | [.key name], tree => overlay name value tree
  | .key name :: rest, tree =>
    let name := lowercase name
    tree.set name (overlaySteps value rest ((tree.get? name).getD null))
  | .index i :: rest, tree => tree.alterItem i (overlaySteps value rest)

def overlayAt (tree : Tree) (path : KeyPath) (value : Tree) : Tree :=
  overlaySteps value (.key path.head :: path.steps) tree

/-- Lays the entries of a layer over a tree. A key that reads as a path names a place further down;
any other is a key of its own. -/
def overlayLayer (layer : List (String × Tree)) (tree : Tree) : Tree :=
  layer.foldl (fun tree (key, value) =>
    match KeyPath.ofText? key with
    | some path => tree.overlayAt path value
    | none => overlay key value tree) tree

end Tree

end Offside.Settings
