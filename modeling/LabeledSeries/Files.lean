/-!
# Files

What a program sees of a file system: the texts of files and the names in folders, both by path.
`Files.ofList` is the view of a tree that is given by the paths of its files; a path in it may
repeat separators and go through `.` and `..`, but not out of the tree.
-/

namespace LabeledSeries

/-- The texts of files and the names in folders. -/
structure Files where
  read? : String → Option String
  names? : String → Option (List String)

namespace Files

/-- A path to a name in a folder; the empty path is the folder at hand. -/
def join (folder name : String) : String :=
  if folder = "" ∨ folder.toList.getLast? = some '/' then folder ++ name else folder ++ "/" ++ name

/-- The part of a file name after its last period, if there is something before that. -/
def extension? (name : String) : Option String :=
  let reversed := name.toList.reverse
  let tail := reversed.takeWhile (· != '.')
  match reversed.drop tail.length with
  | '.' :: _ :: _ => if name = ".." then none else some (String.ofList tail.reverse)
  | _ => none

/-- The parts of a path between separators. -/
def parts (path : String) : List String := path.splitOn "/"

/-- A tree of files by the parts of their paths. -/
abbrev Tree := List (List String × String)

/-- Whether the tree has a folder at a place. -/
def Tree.isFolder (tree : Tree) (place : List String) : Bool :=
  place.isEmpty || tree.any fun (file, _) => place.isPrefixOf file && place.length < file.length

/-- The place that a path leads to from another one.  Every step but the last has to end in a
    folder. -/
def Tree.walk (tree : Tree) : List String → List String → Option (List String)
  | place, [] => some place
  | place, part :: rest =>
    if !tree.isFolder place then none
    else if part = "" ∨ part = "." then walk tree place rest
    else if part = ".." then if place.isEmpty then none else walk tree place.dropLast rest
    else walk tree (place ++ [part]) rest

/-- The place of a path; a path from the root leads out of the tree. -/
def Tree.place? (tree : Tree) (path : String) : Option (List String) :=
  if path.toList.head? = some '/' then none else tree.walk [] (parts path)

/-- The text of the file at a path. -/
def Tree.read? (tree : Tree) (path : String) : Option String :=
  (tree.place? path).bind fun place => tree.lookup place

/-- The names in the folder at a path, in the order of the tree. -/
def Tree.names? (tree : Tree) (path : String) : Option (List String) :=
  (tree.place? path).bind fun place =>
    if tree.isFolder place then
      some (tree.filterMap fun (file, _) =>
        if place.isPrefixOf file then file[place.length]? else none).eraseDups
    else none

/-- The view of a tree given by the paths of its files. -/
def ofList (files : List (String × String)) : Files :=
  let tree : Tree := files.map fun (path, text) =>
    ((parts path).filter (fun part => part != "" && part != "."), text)
  { read? := tree.read?, names? := tree.names? }

end Files

end LabeledSeries
