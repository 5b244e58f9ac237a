import StorageAdapter.Machine.Drives

/-! # Drives in memory

Drives as two tables, one of the images in the units and one of the switches. They may be told to
settle on a media type whatever the image. -/

namespace StorageAdapter.Memory

structure Drives where
  inserted : UInt8 → Option InsertedImage := fun _ => none
  active : UInt8 → Bool := fun _ => true
  /-- The media type that every image is taken for. -/
  settlesOn : Option MediaType := none

namespace Drives

/-- A table with one entry replaced. -/
def update {α : Type} (table : UInt8 → α) (key : UInt8) (value : α) : UInt8 → α := fun k =>
  if k = key then value else table k

def insert (unit : UInt8) (image : InsertedImage) (drives : Drives) : MediaType × Drives :=
  let media := drives.settlesOn.getD image.media
  (media, { drives with inserted := update drives.inserted unit (some { image with media }) })

def switch (device : UInt8) (active : Bool) (drives : Drives) : Bool × Drives :=
  if isDriveDevice device then (true, { drives with active := update drives.active device active })
  else (false, drives)

instance : DriveBay Drives where
  insert := insert
  eject unit drives := { drives with inserted := update drives.inserted unit none }
  switch := switch
  image? drives unit := drives.inserted unit
  isOn drives device := drives.active device

end Drives

end StorageAdapter.Memory
