import StorageAdapter.Catalog
import StorageAdapter.Media
import StorageAdapter.Settings

/-! # Drives

The drives behind the disk slots and the switches of the bus devices. `TrackedDrives` is the bank
of the shipped adapter: it only keeps track of what is inserted. -/

namespace StorageAdapter

/-- An image in a drive. -/
structure InsertedImage where
  filename : String
  size : Nat
  media : MediaType
deriving DecidableEq, Repr

/-- A bank of drives. -/
class DriveBay (D : Type) where
  /-- Inserts an image whose media type was told by its name, and yields the media type in use. -/
  insert (unit : UInt8) (image : InsertedImage) (drives : D) : MediaType × D
  /-- Takes out whatever is in a unit. -/
  eject (unit : UInt8) (drives : D) : D
  /-- Switches a bus device and yields whether there is such a device. -/
  switch (device : UInt8) (active : Bool) (drives : D) : Bool × D
  image? (drives : D) (unit : UInt8) : Option InsertedImage
  /-- Whether a bus device is switched on. -/
  isOn (drives : D) (device : UInt8) : Bool

/-- Whether a bus device is one of the drives. -/
def isDriveDevice (device : UInt8) : Bool := (Settings.switch? device).isSome

/-- Drives that remember the images inserted and the devices switched off. -/
structure TrackedDrives where
  units : Catalog UInt8 InsertedImage := {}
  disabled : List UInt8 := []
deriving DecidableEq, Repr

namespace TrackedDrives

/-- Switches a drive: a device that is off is listed once. -/
def switch (device : UInt8) (active : Bool) (drives : TrackedDrives) : Bool × TrackedDrives :=
  if isDriveDevice device then
    let others := drives.disabled.filter (· != device)
    (true, { drives with disabled := if active then others else others ++ [device] })
  else (false, drives)

instance : DriveBay TrackedDrives where
  insert unit image drives := (image.media, { drives with units := drives.units.put unit image })
  eject unit drives := { drives with units := drives.units.erase unit }
  switch := switch
  image? drives unit := drives.units.get? unit
  isOn drives device := !drives.disabled.contains device

end TrackedDrives

end StorageAdapter
