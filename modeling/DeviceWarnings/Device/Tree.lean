import DeviceWarnings.Text

/-!
# Directory trees

The files that a device offers: contents by path, where a path is a list of names. Writing a file
makes the directories on the way to it, and they stay when the file is removed.
-/

namespace DeviceWarnings

/-- A place in a directory tree: the names on the way to it. -/
abbrev DevicePath := List String

/-- What lies at a path. -/
inductive DeviceNode where
  | directory
  | file (contents : ByteArray)

/-- Why a file cannot be read as text. -/
inductive ReadProblem where
  | unreachable
  | notUnicode
  deriving DecidableEq, Repr

/-- The text of contents in UTF-8. -/
def decodeText (contents : ByteArray) : Option Text :=
  (String.fromUTF8? contents).map Text.ofString

/-- A directory tree, as the list of what lies at which path. -/
structure DeviceTree where
  entries : List (DevicePath × DeviceNode) := []

namespace DeviceTree

/-- What lies at a path. -/
def node? (tree : DeviceTree) (path : DevicePath) : Option DeviceNode :=
  (tree.entries.find? fun entry => entry.1 = path).map (·.2)

/-- The tree without what lies at a path and below it. -/
def remove (tree : DeviceTree) (path : DevicePath) : DeviceTree :=
  ⟨tree.entries.filter fun entry => !path.isPrefixOf entry.1⟩

/-- The tree with a directory at a path, unless something lies there. -/
def addDirectory (tree : DeviceTree) (path : DevicePath) : DeviceTree :=
  if (tree.node? path).isSome then tree else ⟨tree.entries ++ [(path, .directory)]⟩

/-- The directories on the way to a path. -/
def parents (path : DevicePath) : List DevicePath := (List.range path.length).map path.take

/-- The tree with the directories on the way to a path. -/
def addParents (tree : DeviceTree) (path : DevicePath) : DeviceTree :=
  (parents path).foldl addDirectory tree

/-- The tree with a file or an empty directory at a path, in place of all that was there; nothing
there means that the path is removed. -/
def write (tree : DeviceTree) (path : DevicePath) (node : Option DeviceNode) : DeviceTree :=
  match node with
  | none => tree.remove path
  | some (.file contents) =>
    ⟨((tree.remove path).addParents path).entries ++ [(path, .file contents)]⟩
  | some .directory => ((tree.remove path).addParents path).addDirectory path

/-- The tree with the given contents, written in order. -/
def ofList (contents : List (DevicePath × Option DeviceNode)) : DeviceTree :=
  contents.foldl (fun tree entry => tree.write entry.1 entry.2) {}

/-- The last name of a path that leads right into a directory. -/
def childOf? (directory path : DevicePath) : Option String :=
  if path.dropLast = directory then path.getLast? else none

/-- The names in a directory in the order of their code points. -/
def children (tree : DeviceTree) (directory : DevicePath) : List String :=
  (tree.entries.filterMap fun entry => childOf? directory entry.1).mergeSort fun a b => a ≤ b

/-- The text of a file. -/
def readText (tree : DeviceTree) (path : DevicePath) : Except ReadProblem Text :=
  match tree.node? path with
  | some (.file contents) => (decodeText contents).elim (.error .notUnicode) .ok
  | _ => .error .unreachable

end DeviceTree

end DeviceWarnings
