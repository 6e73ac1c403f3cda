import SourceLexer.CommandLine.Path

/-!
# File trees

Files and directories, held in memory.  Paths lead through them as they lead through a file system:
every part but the last has to be a directory, two dots go up to the directory above, and a slash
at the end asks for a directory.

## Places

The same place has many paths, so a tree is kept by places and not by paths, and putting something
in goes along a path in the same way as looking something up.  A path begins at the root or where
the program was started, its top.  Where the top itself stands is not known: a path that leaves it
upwards finds directories, and below those only what was put there.
-/

namespace SourceLexer
namespace CommandLine
namespace FileTree

/-- What a path leads to. -/
inductive Node where
  | directory
  | file (content : List UInt8)
  /-- A file that may not be read. -/
  | locked
  deriving DecidableEq, Repr

/-- The directories that are there without having been put there. -/
inductive Base where
  | root
  /-- The directory a number of levels above the top; none of them above is the top. -/
  | above (levels : Nat)
  deriving DecidableEq, Repr

/-- A place, by the shortest way that leads down to it. -/
structure Place where
  base : Base
  /-- The names on the way down from the base. -/
  way : List String
  deriving DecidableEq, Repr

namespace Place

/-- The place at which a path begins. -/
def start (path : String) : Place :=
  if path.startsWith "/" then ⟨.root, []⟩ else ⟨.above 0, []⟩

/-- The directory above.  The root is above itself. -/
def up (place : Place) : Place :=
  match place with
  | ⟨.above levels, []⟩ => ⟨.above (levels + 1), []⟩
  | ⟨base, way⟩ => ⟨base, way.dropLast⟩

/-- One part of a path further. -/
def enter (place : Place) (part : String) : Place :=
  if part = "" ∨ part = "." then place
  else if part = ".." then place.up
  else { place with way := place.way ++ [part] }

/-- The places that the parts of a path lead through before the last of them is entered. -/
def through (place : Place) : List String → List Place
  | [] => []
  | part :: parts => place :: (place.enter part).through parts

/-- The place that a path leads to if nothing is in its way. -/
def ofPath (path : String) : Place :=
  (pathParts path).foldl enter (start path)

end Place
end FileTree

/-- Files and directories by their places. -/
structure FileTree where
  files : List (FileTree.Place × List UInt8) := []
  directories : List FileTree.Place := []
  deriving DecidableEq, Repr

namespace FileTree

/-- The tree with a directory put in, and with every directory that its path leads through. -/
def addDirectory (tree : FileTree) (path : String) : FileTree :=
  { tree with
    directories := Place.ofPath path :: (Place.start path).through (pathParts path)
      ++ tree.directories }

/-- The tree with a file put in, and with every directory that its path leads through.  A file that
stood there before is gone. -/
def addFile (tree : FileTree) (path : String) (content : List UInt8) : FileTree :=
  { files := (Place.ofPath path, content) :: tree.files
    directories := (Place.start path).through (pathParts path) ++ tree.directories }

/-- The tree with the given files and directories, put in one after the other. -/
def ofPaths (files : List (String × List UInt8)) (directories : List String) : FileTree :=
  files.foldl (fun tree file => tree.addFile file.1 file.2) (directories.foldl addDirectory {})

/-- What stands at a place. -/
def nodeAt (tree : FileTree) (place : Place) : Option Node :=
  if place.way = [] ∨ place ∈ tree.directories then some .directory
  else (tree.files.lookup place).map .file

/-- Goes from a place through the parts of a path.  Only a directory can be left for somewhere
else. -/
def walk (tree : FileTree) (place : Place) : List String → Option Place
  | [] => some place
  | part :: parts => do
    guard (tree.nodeAt place = some .directory)
    tree.walk (place.enter part) parts

/-- What a path leads to. -/
def look (tree : FileTree) (path : String) : Option Node := do
  guard (path ≠ "")
  tree.nodeAt (← tree.walk (Place.start path) (pathParts path))

end FileTree
end CommandLine
end SourceLexer
