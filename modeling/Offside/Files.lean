/-!
# Files by path

A directory tree as a value: files by the names on the way to them, seen from the working
directory. Nothing outside of the working directory can be found.
-/

namespace Offside

/-- What can be found under a path. -/
inductive FileContent where
  | text (content : String)
  | binary
  | directory
deriving DecidableEq, Repr

/-- The content of a file with the given bytes, which are a text if they are valid UTF-8. -/
def FileContent.ofBytes (bytes : ByteArray) : FileContent :=
  match String.fromUTF8? bytes with
  | some content => .text content
  | none => .binary

def FileContent.isFile : FileContent → Bool
  | .directory => false
  | _ => true

def FileContent.text? : FileContent → Option String
  | .text content => some content
  | _ => none

abbrev Files : Type := String → Option FileContent

/-- The names that make up a path; empty ones and those that say "here" are left out. -/
def pathNames (path : String) : List String :=
  (path.splitOn "/").filter fun name => name != "" && name != "."

/-- The files of a working directory, each with the names on the way to it. -/
structure FileTree where
  files : List (List String × FileContent)

namespace FileTree

def ofList (files : List (String × FileContent)) : FileTree :=
  ⟨files.map fun (path, content) => (pathNames path, content)⟩

def at? (tree : FileTree) (names : List String) : Option FileContent :=
  match tree.files.lookup names with
  | some content => some content
  | none =>
    if names.isEmpty || tree.files.any fun (path, _) => names.isPrefixOf path && names != path then
      some .directory
    else none

/-- Goes down a path from a directory, given by the names on the way to it in reverse. Every name
but the last has to lead to a directory, and so has one in front of a closing slash. -/
def walk (tree : FileTree) (here : List String) : List String → Option FileContent
  | [] => tree.at? here.reverse
  | name :: rest =>
    if tree.at? here.reverse != some .directory then none
    else if name == "" || name == "." then tree.walk here rest
    else if name == ".." then
      match here with
      | [] => none
      | _ :: here => tree.walk here rest
    else tree.walk (name :: here) rest

def find (tree : FileTree) : Files := fun path =>
  if path.isEmpty || path.startsWith "/" then none
  else tree.walk [] (path.splitOn "/")

end FileTree

end Offside
