import TripWatch.Command.Startup

/-!
# Directories in memory

A directory given by the files in it, in which a start of the program can be tried out. What lies
above it is a directory too, of which nothing more is known.

## Main definitions

* `Directory`, `Directory.look` — what stands at a path
-/

namespace TripWatch.Command

/-- A directory: the texts of its files by their paths. -/
structure Directory where
  /-- The files. -/
  files : List (String × String)

/-- A place that a path leads to. -/
inductive Place where
  /-- A place in the directory, by the names on the way to it. -/
  | inside (names : List String)
  /-- A place above the directory. -/
  | above
  deriving DecidableEq

namespace Directory

/-- The names on the way to a file. -/
def names (path : String) : List String := path.splitOn "/"

/-- Whether a place is a directory. -/
def isDirectory (d : Directory) : Place → Bool
  | .above => true
  | .inside [] => true
  | .inside way =>
    d.files.any fun f => way.isPrefixOf (names f.1) && decide (way.length < (names f.1).length)

/-- The place that a name leads to from another. -/
def step (d : Directory) (place : Place) (name : String) : Option Place :=
  if !d.isDirectory place then none
  else if name = "" ∨ name = "." then some place
  else match place with
    | .above => if name = ".." then some .above else none
    | .inside way =>
      if name ≠ ".." then some (.inside (way ++ [name]))
      else if way = [] then some .above else some (.inside way.dropLast)

/-- What stands at a path. -/
def look (d : Directory) (path : String) : FileContent :=
  let start := if path.startsWith "/" then Place.above else .inside []
  if path = "" then .absent
  else match (names path).foldlM d.step start with
    | none => .absent
    | some place =>
      if d.isDirectory place then .unreadable
      else match d.files.find? fun f => place = .inside (names f.1) with
        | some f => .bytes f.2.toUTF8.toList
        | none => .absent

end Directory

end TripWatch.Command
