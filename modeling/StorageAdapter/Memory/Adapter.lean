import StorageAdapter.Device.Dispatch
import StorageAdapter.Memory.Drives
import StorageAdapter.Memory.Storage

/-! # The adapter in memory

The control device on storage and drives in memory, for trying it out without any hardware. -/

namespace StorageAdapter.Memory

/-- The control device in memory. -/
abbrev Adapter := Device Storage String Drives

/-- What surrounds the control device in memory. -/
structure Surroundings where
  storage : Storage := {}
  drives : Drives := {}
  radio : Radio := {}
  board : Board := { version := "dummy-0.1.0" }

namespace Surroundings

/-- Starts the control device. -/
def start (s : Surroundings) : Adapter :=
  Device.start s.storage s.drives s.radio s.board DigestAlgorithm.digest

end Surroundings

namespace Adapter

/-- The surroundings of a control device. -/
def surroundings (a : Adapter) : Surroundings := ⟨a.rack.storage, a.rack.drives, a.radio, a.board⟩

/-- The control device with its surroundings changed under it. -/
def setSurroundings (a : Adapter) (s : Surroundings) : Adapter :=
  { a with
    rack := { a.rack with storage := s.storage, drives := s.drives }
    radio := s.radio
    board := s.board }

/-- Takes all images out and switches all devices on; the drives settle on what they did before. -/
def resetDrives (a : Adapter) : Adapter :=
  { a with rack := { a.rack with drives := { settlesOn := a.rack.drives.settlesOn } } }

end Adapter

end StorageAdapter.Memory
