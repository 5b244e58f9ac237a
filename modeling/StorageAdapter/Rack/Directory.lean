import StorageAdapter.Rack.Basic

/-! # The directory cursor

One listing is open at a time, over all hosts. Opening another one closes it first, and what is
read comes from the host that the cursor is open on. -/

namespace StorageAdapter.Rack

variable {W R D : Type}

/-- Marks where the cursor is. -/
def setCursor (r : Rack W R D) (cursor : Cursor) : Rack W R D := { r with cursor }

/-- Closes the listing, if any is open. -/
def closeDirectory (r : Rack W R D) : Rack W R D :=
  match r.cursor.openOn with
  | some i =>
    let host := r.hosts.get i
    (r.setHost i { host with mount := host.mount.map Mounted.closed }).setCursor {}
  | none => r.setCursor {}

/-- Drops the cursor if it is on a host slot. -/
def dropCursor (i : Fin 8) (r : Rack W R D) : Rack W R D :=
  if r.cursor.openOn = some i then r.setCursor {} else r

/-- Puts another state of its mounted host into a host slot. -/
def setMounted (i : Fin 8) (mounted : Mounted R) (r : Rack W R D) : Rack W R D :=
  r.setHost i { r.hosts.get i with mount := some mounted }

/-- Opens a listing on a mounted host; an empty pattern is none. A listing that was open is closed
first, also when the new one cannot be opened. -/
def openDirectory [HostStorage W R] (slot : UInt8) (path : String) (pattern : Option String) :
    Action (Rack W R D) Unit := do
  let i ← hostIndex slot
  modify fun r => if r.cursor.openOn.isSome then r.closeDirectory else r
  let r ← get
  let some mounted := (r.hosts.get i).mount | throw .hostNotMounted
  Action.on (fun _ => mounted) (setMounted i)
    (Mounted.openListing r.storage path (pattern.filter (· != "")))
  modify (·.setCursor { openOn := some i })

/-- The host slot that the cursor is on and the host mounted there. A cursor whose host is gone is
closed. -/
def reading : Action (Rack W R D) (Fin 8 × Mounted R) := do
  let r ← get
  let some i := r.cursor.openOn | throw .noDirectory
  match (r.hosts.get i).mount with
  | some mounted => return (i, mounted)
  | none =>
    set (r.setCursor { r.cursor with openOn := none })
    throw .noDirectory

/-- The next entry for a client with a buffer of `limit` bytes. Behind the last entry every reading
yields the end mark. -/
def readDirectory (limit options : UInt8) : Action (Rack W R D) Bytes := do
  let (i, mounted) ← reading
  if (← get).cursor.exhausted then return DirectoryEntry.endMark
  match mounted.next with
  | (some entry, mounted) =>
    modify (setMounted i mounted)
    return entry.format limit options
  | (none, _) =>
    modify fun r => r.setCursor { r.cursor with exhausted := true }
    return DirectoryEntry.endMark

/-- The position in the listing. -/
def directoryPosition [HostStorage W R] : Action (Rack W R D) UInt16 := do
  let (_, mounted) ← reading
  return mounted.tell (← get).storage

/-- Moves to a position in the listing. -/
def seekDirectory [HostStorage W R] (position : UInt16) : Action (Rack W R D) Unit := do
  let (i, mounted) ← reading
  match mounted.seek? (← get).storage position with
  | some mounted =>
    modify fun r => (setMounted i mounted r).setCursor { r.cursor with exhausted := false }
  | none => throw .seekFailed

end StorageAdapter.Rack
