/-!
# Directories in memory

A directory tree given by its files. A file is reached by a relative path: a name goes down, a dot
or nothing between two slashes stays, two dots go up. Each step starts from a directory, so no
path leads through a file, and none leads out of the tree.
-/

namespace EditorAnalysis
namespace CommandLine

/-- The files of a directory tree, with the names on the way to each. -/
abbrev Directory (α : Type) := List (List String × α)

namespace Directory

variable {α : Type}

/-- The parts of a path between its slashes. -/
def parts (path : String) : List String :=
  path.splitOn "/"

def ofFiles (files : List (String × α)) : Directory α :=
  files.map fun (path, a) => (parts path, a)

/-- Whether some file lies below a place. -/
def isDirectory (tree : Directory α) (place : List String) : Bool :=
  place.isEmpty || tree.any fun (names, _) => place.isPrefixOf names && place != names

/-- The place that a path leads to. -/
def walk (tree : Directory α) (place : List String) : List String → Option (List String)
  | [] => some place
  | part :: rest =>
    if !tree.isDirectory place then none
    else if part = "" ∨ part = "." then tree.walk place rest
    else if part = ".." then
      if place = [] then none else tree.walk place.dropLast rest
    else tree.walk (place ++ [part]) rest

def find? (tree : Directory α) (path : String) : Option α :=
  match parts path with
  | "" :: _ => none
  | path =>
    match tree.walk [] path with
    | none => none
    | some place => (tree.lookup place)

end Directory
end CommandLine
end EditorAnalysis
