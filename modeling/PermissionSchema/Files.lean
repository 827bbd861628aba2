import PermissionSchema.Text.Basic

/-!
# Files

The program sees the file system as a function from paths to what stands there, `Files`. A
`FileTree` is a whole working directory as a value; `FileTree.files` looks paths up in it, relative
to its root, through `.`, `..` and repeated slashes.
-/

namespace PermissionSchema

inductive FileEntry where
  | missing
  | directory
  | file (content : ByteArray)
  /-- A file that cannot be read, and the system's reason. -/
  | locked (reason : String)

/-- The file system as the program sees it. -/
abbrev Files := String → FileEntry

namespace FileEntry

def «exists» : FileEntry → Bool
  | .missing => false
  | _ => true

/-- The text of a file, which must be UTF-8, or the system's reason why there is none. -/
def text : FileEntry → Except String Text
  | .missing => .error "No such file or directory (os error 2)"
  | .directory => .error "Is a directory (os error 21)"
  | .locked reason => .error reason
  | .file content =>
    match String.fromUTF8? content with
    | some text => .ok text.toList
    | none => .error "stream did not contain valid UTF-8"

end FileEntry

/-- A directory with everything in it, or a file. -/
inductive FileTree where
  | file (content : ByteArray)
  | directory (entries : List (String × FileTree))

namespace FileTree

/-- The tree at a name of a directory. -/
def child? (tree : FileTree) (name : String) : Option FileTree :=
  match tree with
  | .file _ => none
  | .directory entries => entries.lookup name

/-- Put a tree at a name of a directory, in the place of what is there. -/
def withChild (tree : FileTree) (name : String) (child : FileTree) : FileTree :=
  match tree with
  | .file content => .file content
  | .directory entries => .directory ((name, child) :: entries.filter (·.1 != name))

/-- Put a tree at a path, making the directories that lead there. A directory that is there already
    keeps what it holds. -/
def insert (tree : FileTree) (path : List String) (node : FileTree) : FileTree :=
  match path with
  | [] =>
    match tree, node with
    | .directory entries, .directory [] => .directory entries
    | _, _ => node
  | name :: rest =>
    tree.withChild name (((tree.child? name).getD (.directory [])).insert rest node)

/-- The directory that holds exactly the given trees at their paths. -/
def ofPaths (nodes : List (String × FileTree)) : FileTree :=
  nodes.foldl (fun tree (path, node) =>
    tree.insert ((path.splitOn "/").filter fun part => part != "" && part != ".") node)
    (.directory [])

/-- Follow the parts of a path from a directory, given the directories that lead to it, the nearest
    first. Above the root there is nothing but further directories. -/
def follow (above : List FileTree) (here : FileTree) : List String → Option FileTree
  | [] => some here
  | part :: rest =>
    match here with
    | .file _ => none
    | .directory _ =>
      if part = "" || part = "." then follow above here rest
      else if part = ".." then
        match above with
        | parent :: above => follow above parent rest
        | [] => follow [] (.directory []) rest
      else match here.child? part with
        | some child => follow (here :: above) child rest
        | none => none

/-- The file system whose working directory is the tree. Of absolute paths it knows the root. -/
def files (tree : FileTree) : Files := fun path =>
  let start := if path.startsWith "/" then .directory [] else tree
  if path.isEmpty then .missing
  else match follow [] start (path.splitOn "/") with
    | none => .missing
    | some (.directory _) => .directory
    | some (.file content) => .file content

end FileTree

end PermissionSchema
