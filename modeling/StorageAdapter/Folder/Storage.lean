import StorageAdapter.Folder.FileTree
import StorageAdapter.Machine.Storage
import StorageAdapter.Text.Pattern
import StorageAdapter.Text.Split
import StorageAdapter.Toml.SettingsFile

/-! # Storage in a folder

A folder of files as storage: one directory stands in for the card, which also holds the app keys,
another one has a directory for each other host, and one file keeps the settings. A path that a
client sends never leads out of the directory of its host. -/

namespace StorageAdapter.Folder

/-! ## Paths from clients -/

/-- A path that would lead out of its directory. -/
def invalidPath (path : String) : Error := .io ("invalid path: " ++ path)

/-- The parts of a path, without the slashes at its beginning. -/
def partsOf (path : String) : Path :=
  (Text.splitAll '/' (path.toList.dropWhile (· == '/'))).map String.ofList

/-- The place of a host path below a root. -/
def placeBelow (root : Path) (path : String) : Except Error Path :=
  let parts := (partsOf path).filter fun part => !Path.stays part
  if ".." ∈ parts then .error (invalidPath path) else .ok (root ++ parts)

/-- The place of a card path below a root. It is kept as it was sent. -/
def placeOnCard (root : Path) (path : String) : Except Error Path :=
  let parts := partsOf path
  if ".." ∈ parts then .error (invalidPath path) else .ok (root ++ parts)

/-! ## The folder -/

/-- A folder and the places in it. -/
structure Storage where
  tree : FileTree
  card : Path
  hosts : Path
  settingsFile : Path
deriving DecidableEq, Repr

namespace Storage

/-- The storage below a data directory. -/
def below (root : Path) (tree : FileTree) : Storage :=
  ⟨tree, root ++ ["sd"], root ++ ["hosts"], root ++ ["fuji.toml"]⟩

/-- A change of the file tree, whose faults are reported as `report` says. -/
def onTree {α : Type} (report : Fault → Error) (change : FileTree.Change α) : Action Storage α :=
  fun s =>
    match change s.tree with
    | .ok a tree => .ok a { s with tree }
    | .error f tree => .error (report f) { s with tree }

/-! ### Hosts -/

/-- The directory of a host. -/
def hostRoot (s : Storage) (name : String) (kind : HostKind) : Except Error Path :=
  if kind = .sd then .ok s.card else placeBelow s.hosts name

/-- Reaches a host that has a directory. -/
def connect (name : String) (kind : HostKind) : Action Storage Path := do
  let s ← get
  let root ← s.hostRoot name kind
  if !s.tree.isDir root then throw (.io ("host directory " ++ root.text ++ " not found"))
  return root

/-- Opens an image. A directory can be opened, too, though not for writing. -/
def openImage (root : Path) (path : String) (mode : AccessMode) : Action Storage Nat := do
  let place ← placeBelow root path
  match (← get).tree.find place with
  | .ok item => if item.isDir && mode = .readWrite then throw .notOpened else return item.size
  | .error _ => throw .notOpened

/-- The largest size that an entry tells. -/
def largestSize : Nat := 4294967295

/-- The entry of an item; times before 1970 are not told. -/
def entryOf (name : String) (item : Item) : DirectoryEntry :=
  ⟨name, item.isDir, min item.size largestSize, max item.modified 0⟩

/-- Whether a name is listed: it is not hidden and matches the pattern. -/
def isListed (pattern : Option String) (name : String) : Bool :=
  !name.startsWith "." && pattern.all fun p => Text.matchesPattern p name

/-- The entries of a directory, in the order of listings. -/
def list (root : Path) (path : String) (pattern : Option String) (s : Storage) :
    Except Error (List DirectoryEntry) :=
  let found := do
    let place ← placeBelow root path
    (s.tree.walk place).mapError Fault.toError
  match found with
  | .ok dir =>
    if s.tree.isDirAt dir then
      let inside := (s.tree.children dir).filter fun (name, _) => isListed pattern name
      .ok (DirectoryEntry.inOrder (inside.map fun (name, item) => entryOf name item))
    else .error .notListed
  | .error _ => .error .notListed

instance : HostStorage Storage Path where
  connect := connect
  openImage := openImage
  list := list
  failureKeepsListing := false
  position _ n := UInt16.ofNat (min n 65534)
  canSeek _ := true
  release _ := pure ()

/-! ### App keys -/

/-- Makes a directory on the card. -/
def createDir (path : String) : Action Storage Unit := do
  let place ← placeOnCard (← get).card path
  onTree Fault.toError (FileTree.makeDirs place)

/-- Writes a file on the card. -/
def writeKey (path : String) (data : Bytes) : Action Storage Nat := do
  let place ← placeOnCard (← get).card path
  onTree (fun _ => .keyNotWritten) (FileTree.writeFile place data)
  return data.length

/-- Reads a file on the card. -/
def readKey (path : String) (limit : Nat) (s : Storage) : Except Error Bytes := do
  let place ← placeOnCard s.card path
  match s.tree.find place with
  | .ok ⟨some content, _⟩ => .ok (content.take limit)
  | .ok ⟨none, _⟩ => if limit = 0 then .ok [] else .error Fault.isDirectory.toError
  | .error _ => .error .keyNotRead

instance : KeyStorage Storage where
  available s := s.tree.isDir s.card
  createDir := createDir
  write := writeKey
  read := readKey

/-! ### Settings -/

/-- A settings file that does not hold settings. -/
def invalidSettings : Error := .io "invalid configuration: not a document of settings"

/-- Loads the settings; without a file they are the default ones. -/
def load (s : Storage) : Except Error Settings :=
  match s.tree.find s.settingsFile with
  | .ok ⟨some content, _⟩ =>
    match Text.decode? content.toBytes with
    | some text =>
      match Toml.readSettings text with
      | some settings => .ok settings
      | none => .error invalidSettings
    | none => .error Fault.notText.toError
  | .ok ⟨none, _⟩ => .error Fault.isDirectory.toError
  | .error _ => .ok {}

/-- Saves the settings, making the directory of the file if needed. -/
def save (settings : Settings) : Action Storage Unit := do
  let file := (← get).settingsFile
  onTree Fault.toError do
    FileTree.makeDirs file.dropLast
    FileTree.writeFile file (Text.encode (Toml.settingsText settings))

instance : SettingsStore Storage where
  load := load
  save := save

/-- Makes the directories of the card and of the hosts. -/
def prepare : Action Storage Unit := do
  let s ← get
  onTree Fault.toError do
    FileTree.makeDirs s.card
    FileTree.makeDirs s.hosts

end Storage

end StorageAdapter.Folder
