import StorageAdapter.Device.Dispatch
import StorageAdapter.Folder.Storage

/-! # The adapter on a folder

The control device on a folder of files, on a machine without WiFi and with drives that only keep
track of their images. -/

namespace StorageAdapter.Folder

/-- The control device on a folder. -/
abbrev Adapter := Device Storage Path TrackedDrives

/-- The name of the machine. -/
def hostname : String := "iecfuji"

/-- The machine, which reports the version of the adapter. -/
def board : Board := { version := "0.1.0" }

/-- Makes the directories below a data directory if needed, and starts the control device there. -/
def openAdapter (root : Path) (tree : FileTree) : Except Error Adapter :=
  match Storage.prepare (Storage.below root tree) with
  | .ok () storage =>
    .ok (Device.start storage {} (.offline hostname) board DigestAlgorithm.digest)
  | .error e _ => .error e

namespace Adapter

/-- Opens the adapter anew on the files as they are. -/
def reopen (root : Path) (a : Adapter) : Except Error Adapter :=
  openAdapter root a.rack.storage.tree

/-- The adapter with the file tree changed under it. -/
def changeTree (f : FileTree → FileTree) (a : Adapter) : Adapter :=
  { a with
    rack := { a.rack with storage := { a.rack.storage with tree := f a.rack.storage.tree } } }

end Adapter

end StorageAdapter.Folder
