import Liquid.Error
import Liquid.Keyed
import Liquid.Text.Search
import Liquid.Text.Utf8

/-!
# Trees of files

- `Disk`: from a path to the bytes of the file there, or the reason why there are none.
- `Disk.readText`: the text of a file.
- `FileTree`: a file, or a directory with its entries. `FileTree.disk` reads the paths relative to
  a tree; around it there are only directories without other entries.
-/

namespace Liquid

/-- From a path to the bytes of the file there. -/
abbrev Disk := String → Except IoProblem (List UInt8)

/-- The text of a file. -/
def Disk.readText (disk : Disk) (path : String) : Except IoProblem String := do
  match Text.Utf8.decode? (← disk path) with
  | some text => return String.ofList text
  | none => throw .notText

/-- A file, or a directory with its entries. -/
inductive FileTree where
  /-- A file with its bytes. -/
  | file (contents : List UInt8)
  /-- A directory. -/
  | directory (entries : List (String × FileTree))

namespace FileTree

/-- The parts of a path between its slashes. -/
def components (path : String) : List String :=
  (Text.splitOn ['/'] path.toList).map String.ofList

/-- The entries of a directory. -/
def entries : FileTree → Keyed FileTree
  | directory entries => entries
  | file _ => []

/-- Changes what is below the names of a path; directories on the way to it are made. -/
def update (change : FileTree → FileTree) : (path : List String) → FileTree → FileTree
  | [], tree => change tree
  | name :: rest, tree =>
    let inner := (Keyed.get? name tree.entries).getD (directory [])
    directory (Keyed.insert name (update change rest inner) tree.entries)

/-- Changes what is at a path. `above` are the names on the way from the root to where the path
starts, the innermost first. A directory that `..` leads out of is made like any other. -/
def updateAt (change : FileTree → FileTree) (above : List String) :
    (path : List String) → (root : FileTree) → FileTree
  | [], root => update change above.reverse root
  | name :: rest, root =>
    if name = "" ∨ name = "." then updateAt change above rest root
    else if name = ".." then updateAt change above.tail rest (update id above.reverse root)
    else updateAt change (name :: above) rest root

/-- Puts a tree at a path. A directory that is there already keeps its entries. -/
def put (path : String) (tree root : FileTree) : FileTree :=
  let change (old : FileTree) : FileTree := match tree with
    | directory [] => old
    | tree => tree
  updateAt change [] (components path) root

/-- The directory with the given files and empty directories in it, by their paths. -/
def ofPaths (trees : List (String × FileTree)) : FileTree :=
  trees.foldl (fun root entry => put entry.1 entry.2 root) (directory [])

/-- The number of bytes of a name or a path. -/
def byteLength (s : String) : Nat := (Text.Utf8.encode s.toList).length

/-- What is at the end of a path that starts at `tree`. `above` are the directories that `..` leads
to, the innermost first; beyond them directories are empty. -/
def walk (tree : FileTree) (above : List FileTree) : List String → Except IoProblem FileTree
  | [] => .ok tree
  | name :: rest =>
    match tree with
    | file _ => .error .notDirectory
    | directory entries =>
      if name = "" ∨ name = "." then walk (directory entries) above rest
      else if name = ".." then
        match above with
        | [] => walk (directory []) [] rest
        | outer :: above => walk outer above rest
      else if 255 < byteLength name then .error .nameTooLong
      else
        match Keyed.get? name entries with
        | some inner => walk inner (directory entries :: above) rest
        | none => .error .notFound

/-- Reads the file at a path relative to a tree. -/
def disk (tree : FileTree) : Disk := fun path =>
  if path.toList.contains '\x00' then .error .nullInPath
  else if 4096 ≤ byteLength path then .error .nameTooLong
  else
    let names := components path
    let start := match names with
      | "" :: _ => directory []
      | _ => tree
    if path = "" then .error .notFound
    else do
      match ← start.walk [] names with
      | file contents => return contents
      | directory _ => throw .isDirectory

end FileTree

end Liquid
