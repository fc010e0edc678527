import MarkupLint.NameMap
import MarkupLint.Path.FileSystem

/-!
# Trees of files

Files held in memory: directories that hold files and further directories by
name. A path is looked up name by name; a dot stays, two dots go up, and a
name behind a file leads nowhere. The tree lies in directories of which
nothing else is known: they are there, and nothing is found in them.
-/

namespace MarkupLint.Path

/-- A file with its bytes, or a directory with its entries sorted by name. -/
inductive FileTree where
  | file (content : ByteArray)
  | directory (entries : List (String × FileTree))
deriving Inhabited

namespace FileTree

/-- A directory without entries. -/
def empty : FileTree :=
  .directory []

/-- Whether the tree is a directory. -/
def isDirectory : FileTree → Bool
  | .directory _ => true
  | .file _ => false

/-- The names in a directory. -/
def names : FileTree → List String
  | .directory entries => entries.map (·.1)
  | .file _ => []

/-- Puts a tree at the end of a path, making the directories on the way. A file on the way is
replaced, and a directory that is there already is kept. -/
def insert (added : FileTree) : List String → FileTree → FileTree
  | [], tree => if added.isDirectory && tree.isDirectory then tree else added
  | name :: names, tree =>
      if name = "" ∨ name = "." then insert added names tree
      else
        match tree with
        | .directory entries =>
            let inner := (NameMap.get? entries name).getD empty
            .directory (NameMap.insert name (insert added names inner) entries)
        | .file _ => .directory [(name, insert added names empty)]

/-- The bytes that a name can have. -/
def maxNameSize : Nat :=
  255

/-- The bytes that a path can have. -/
def maxPathSize : Nat :=
  4095

/-- Follows names from a directory; `above` holds the directories it lies in, innermost first. -/
def follow (above : List FileTree) (tree : FileTree) : List String → Except ReadError FileTree
  | [] => .ok tree
  | name :: names =>
      match tree with
      | .file _ => .error .notDirectory
      | .directory entries =>
          if name = "" ∨ name = "." then follow above tree names
          else if name = ".." then
            match above with
            | parent :: further => follow further parent names
            | [] => follow [] empty names
          else if maxNameSize < name.utf8ByteSize then .error .nameTooLong
          else
            match NameMap.get? entries name with
            | some inner => follow (tree :: above) inner names
            | none => .error .notFound

/-- Looks up a path that starts at the root of the tree, or outside it if it starts with a slash.
Nothing is found under an empty path. -/
def find (root : FileTree) (path : String) : Except ReadError FileTree :=
  if path.toList.contains '\x00' then .error .zeroInName
  else if path.isEmpty then .error .notFound
  else if maxPathSize < path.utf8ByteSize then .error .nameTooLong
  else follow [] (if path.startsWith "/" then empty else root) (components path)

/-- Reads the text of a file. -/
def readText (root : FileTree) (path : String) : Except ReadError String := do
  match ← root.find path with
  | .directory _ => .error .isDirectory
  | .file content => decodeText content

/-- Access to the files of a tree. -/
def fileSystem (root : FileTree) : FileSystem Id where
  isDirectory? path := (root.find path).toOption.map isDirectory
  entries path := ((root.find path).toOption.map names).getD []
  readText path := root.readText path

end FileTree

end MarkupLint.Path
