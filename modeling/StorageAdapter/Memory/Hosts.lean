import StorageAdapter.Catalog
import StorageAdapter.Directory.Entry
import StorageAdapter.Error
import StorageAdapter.Settings
import StorageAdapter.Text.Pattern

/-! # Hosts in memory

Host trees that are built by hand, one list of nodes for each host with the node added last in
front, with a count of the live mounts of every host and a log of the images that were opened. A
path in a tree begins with a slash and has none at its end. -/

namespace StorageAdapter.Memory

/-! ## Paths -/

/-- The characters without the slashes at their end. -/
def withoutSlashes (cs : List Char) : List Char := (cs.reverse.dropWhile (· == '/')).reverse

/-- The path in its form for trees. -/
def treePath (path : String) : String :=
  match withoutSlashes path.toList with
  | [] => "/"
  | '/' :: cs => String.ofList ('/' :: cs)
  | cs => String.ofList ('/' :: cs)

/-- The path of the directory that a path lies in. -/
def directoryOf (path : String) : String :=
  match (path.toList.reverse.dropWhile (· != '/')).tail.reverse with
  | [] => "/"
  | cs => String.ofList cs

/-- The last component of a path. -/
def lastName (path : String) : String :=
  String.ofList (path.toList.reverse.takeWhile (· != '/')).reverse

/-- The directories above a path, the uppermost one first, where `done` lies before the rest of the
path. -/
def ancestorsFrom (done : List Char) : List Char → List String
  | [] => []
  | c :: cs =>
    let rest := ancestorsFrom (done ++ [c]) cs
    if c = '/' ∧ done.getLast?.any (· != '/') then String.ofList done :: rest else rest

/-- The directories above a path, the uppermost one first. -/
def ancestors (path : String) : List String := ancestorsFrom [] path.toList

/-! ## Trees -/

/-- A file or a directory of a host. -/
structure Node where
  path : String
  isDir : Bool
  size : Nat := 0
  modified : Int := 0
deriving DecidableEq, Repr

namespace Node

/-- A directory. -/
def dir (path : String) : Node := { path, isDir := true }

/-- The entry of a node in listings. -/
def entry (n : Node) : DirectoryEntry := ⟨lastName n.path, n.isDir, n.size, n.modified⟩

end Node

/-- A tree with a node added in front, unless there is one at its path. -/
def addNode (tree : List Node) (n : Node) : List Node :=
  if tree.any (·.path == n.path) then tree else n :: tree

/-- The entries of a directory whose names match a pattern, in the order of listings. Those that
have no order among them stand as they were added. -/
def listTree (tree : List Node) (path : String) (pattern : Option String) :
    Except Error (List DirectoryEntry) :=
  let path := treePath path
  if path == "/" || tree.any (fun n => n.isDir && n.path == path) then
    let inside := tree.reverse.filter fun n =>
      directoryOf n.path == path && pattern.all (fun p => Text.matchesPattern p (lastName n.path))
    .ok (DirectoryEntry.inOrder (inside.map Node.entry))
  else .error .notListed

/-! ## Hosts -/

/-- The hosts that can be reached. -/
structure Hosts where
  trees : Catalog String (List Node) := {}
  /-- The number of live mounts of each host. -/
  mounts : Catalog String Nat := {}
  /-- The images opened so far, the first one first. -/
  opened : List (String × AccessMode) := []
deriving DecidableEq, Repr

namespace Hosts

/-- The tree of a host; a host that was never added has an empty one. -/
def tree (h : Hosts) (name : String) : List Node := (h.trees.get? name).getD []

/-- The hosts with nodes added to a tree. -/
def addNodes (h : Hosts) (name : String) (nodes : List Node) : Hosts :=
  { h with trees := h.trees.put name (nodes.foldl addNode (h.tree name)) }

/-- Makes a host reachable. -/
def withHost (h : Hosts) (name : String) : Hosts := h.addNodes name []

/-- Adds a directory and those above it. -/
def withDir (h : Hosts) (name path : String) : Hosts :=
  let path := treePath path
  h.addNodes name (((ancestors path) ++ (if path = "/" then [] else [path])).map Node.dir)

/-- Adds a file and the directories above it. -/
def withFile (h : Hosts) (name path : String) (size : Nat) (modified : Int) : Hosts :=
  let path := treePath path
  h.addNodes name ((ancestors path).map Node.dir ++ [{ path, isDir := false, size, modified }])

/-- The number of live mounts of a host. -/
def mountCount (h : Hosts) (name : String) : Nat := (h.mounts.get? name).getD 0

/-- Whether a host is mounted. -/
def isMounted (h : Hosts) (name : String) : Bool := h.mountCount name != 0

/-- The hosts with the number of live mounts of one of them changed. -/
def setMountCount (h : Hosts) (name : String) (n : Nat) : Hosts :=
  { h with mounts := h.mounts.put name n }

def fileSize? (h : Hosts) (name path : String) : Option Nat :=
  ((h.tree name).find? fun n => !n.isDir && n.path == path).map (·.size)

end Hosts

end StorageAdapter.Memory
