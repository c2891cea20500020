import AttributeGrammar.Text.Lines

/-!
# File trees

The files in and below a working directory. What lies above it is not known, and is taken to be
directories without anything else in them.

* `Path` — a way from the working directory or from the top of all directories.
* `FileTree.resolve` — where a path leads; every part but the last must lead to a directory.
* `FileTree.read`, `FileTree.write` — the content of a file.
* `FileTree.createDirectories` — a directory with all that it lies in.
-/

set_option autoImplicit false

namespace AttributeGrammar

/-- Why a file operation fails. -/
inductive FileError where
  | missing
  | alreadyThere
  | notDirectory
  | isDirectory
  /-- The path has a character that ends paths. -/
  | endsEarly
deriving DecidableEq, Repr

def FileError.message : FileError → String
  | .missing => "No such file or directory (os error 2)"
  | .alreadyThere => "File exists (os error 17)"
  | .notDirectory => "Not a directory (os error 20)"
  | .isDirectory => "Is a directory (os error 21)"
  | .endsEarly => "file name contained an unexpected NUL byte"

/-- A way from the working directory or from the top of all directories. -/
structure Path where
  absolute : Bool
  /-- The parts between slashes; some may be empty. -/
  parts : List String
deriving DecidableEq, Repr

namespace Path

/-- The path that a text is. -/
def ofText (text : String) : Path :=
  let parts := (Text.cutAt '/' text.toList).map String.ofList
  if text.toList.head? = some '/' then ⟨true, parts.drop 1⟩ else ⟨false, parts⟩

/-- The path without slashes at its end. -/
def trimmed (path : Path) : Path :=
  { path with parts := (path.parts.reverse.dropWhile fun part => part = "").reverse }

/-- The paths of the directories that a path goes through, the first one first. -/
def ancestors (path : Path) : List Path :=
  let parts := path.parts.filter fun part => part ≠ "" && part ≠ "."
  (List.range parts.length).tail.map fun count => { path with parts := parts.take count }

end Path

/-- The text of a path from a directory on: an absolute one does not start there. -/
def joinPath (directory path : String) : String :=
  if path.toList.head? = some '/' then path
  else if directory.toList.getLast? = some '/' then directory ++ path
  else directory ++ "/" ++ path

/-- Where a path leads: some steps up from the working directory at first, then down by names. -/
structure Place where
  above : Bool
  names : List String
deriving DecidableEq, Repr

/-- What is at a place. -/
inductive Entry where
  | file (content : String)
  | directory
deriving DecidableEq, Repr

/-- The files and directories below a working directory. A directory with something in it needs no entry
of its own. -/
structure FileTree where
  entries : List (List String × Entry)
deriving DecidableEq, Repr

namespace FileTree

/-- The tree of some files under their paths. -/
def ofFiles (files : List (String × String)) : FileTree :=
  ⟨files.map fun (path, content) => ((Path.ofText path).parts, .file content)⟩

/-- The files under their paths. -/
def files (tree : FileTree) : List (String × String) :=
  tree.entries.filterMap fun (names, entry) =>
    match entry with
    | .file content => some ("/".intercalate names, content)
    | .directory => none

/-- The files that another tree does not hold, or holds with another content. -/
def changedSince (before tree : FileTree) : List (String × String) :=
  tree.files.filter fun file => file ∉ before.files

/-- What is at a place. -/
def entry? (tree : FileTree) (place : Place) : Option Entry :=
  if place.above then if place.names.isEmpty then some .directory else none
  else
    match tree.entries.lookup place.names with
    | some entry => some entry
    | none =>
      if place.names.isEmpty || tree.entries.any fun (names, _) => place.names.isPrefixOf names then
        some .directory
      else none

/-- Where a part of a path leads from a place. -/
def step (tree : FileTree) (place : Place) (part : String) : Except FileError Place :=
  match tree.entry? place with
  | none => .error .missing
  | some (.file _) => .error .notDirectory
  | some .directory =>
    if part = "" || part = "." then .ok place
    else if part = ".." then
      .ok (if place.names.isEmpty then ⟨true, []⟩ else { place with names := place.names.dropLast })
    else .ok { place with names := place.names ++ [part] }

/-- Where a path leads. There need not be anything. -/
def resolve (tree : FileTree) (path : Path) : Except FileError Place :=
  if path.parts.any fun part => part.toList.contains '\x00' then .error .endsEarly
  else path.parts.foldlM tree.step ⟨path.absolute, []⟩

/-- What a path leads to. -/
def find? (tree : FileTree) (path : Path) : Option Entry :=
  match tree.resolve path with
  | .ok place => tree.entry? place
  | .error _ => none

/-- The content of a file. -/
def read (tree : FileTree) (path : Path) : Except FileError String := do
  match tree.entry? (← tree.resolve path) with
  | some (.file content) => return content
  | some .directory => throw .isDirectory
  | none => throw .missing

/-- Puts something at a place. Nothing can be put above the working directory. -/
def put (tree : FileTree) (place : Place) (entry : Entry) : Except FileError FileTree :=
  if place.above then .error .missing
  else .ok ⟨(place.names, entry) :: tree.entries.filter fun (names, _) => names ≠ place.names⟩

/-- Writes a file, in place of one that is there. -/
def write (tree : FileTree) (path : Path) (content : String) : Except FileError FileTree := do
  let place ← tree.resolve path
  match tree.entry? place with
  | some .directory => throw .isDirectory
  | _ => tree.put place (.file content)

/-- Creates a directory in one that is there. -/
def createDirectory (tree : FileTree) (path : Path) : Except FileError FileTree := do
  let place ← tree.resolve path.trimmed
  match tree.entry? place with
  | some _ => throw .alreadyThere
  | none => tree.put place .directory

/-- Creates a directory unless it is there. -/
def ensureDirectory (tree : FileTree) (path : Path) : Except FileError FileTree :=
  match tree.createDirectory path with
  | .ok tree => .ok tree
  | .error e => if tree.find? path = some .directory then .ok tree else .error e

/-- Creates a directory and those that it lies in, unless they are there. -/
def createDirectories (tree : FileTree) (path : Path) : Except FileError FileTree :=
  match tree.ensureDirectory path with
  | .error .missing => (path.ancestors ++ [path]).foldlM ensureDirectory tree
  | result => result

example : ((ofFiles [("a/x", "1")]).read (.ofText "a/../a/x")).toOption = some "1" := by
  decide +kernel
example : ((ofFiles [("a/x", "1")]).read (.ofText "b/../a/x")).toOption = none := by
  decide +kernel
example : (((ofFiles []).createDirectories (.ofText "a/b")).toOption.map fun tree =>
    tree.find? (.ofText "a/b")) = some (some .directory) := by
  decide +kernel

end FileTree

end AttributeGrammar
