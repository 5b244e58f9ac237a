import StorageAdapter.Catalog
import StorageAdapter.Machine.Storage

/-! # Card in memory

A card for app keys that can be taken out and put back, and that may cut every write short. -/

namespace StorageAdapter.Memory

structure Card where
  inserted : Bool := true
  dirs : List String := []
  files : Catalog String Bytes := {}
  /-- The number of bytes that a write stores at most. -/
  writeLimit : Option Nat := none
deriving DecidableEq, Repr

namespace Card

/-- The directory of a path: what precedes its last slash. -/
def dirOf (path : String) : String :=
  String.ofList (path.toList.reverse.dropWhile (· != '/')).tail.reverse

/-- The card with a file replaced. -/
def withFile (c : Card) (path : String) (data : Bytes) : Card :=
  { c with files := c.files.put path data }

/-- The part of the data that a write stores. -/
def stored (c : Card) (data : Bytes) : Bytes :=
  match c.writeLimit with
  | some limit => data.take limit
  | none => data

/-- Writes a file in a directory that exists. -/
def write (path : String) (data : Bytes) : Action Card Nat := do
  let c ← get
  let dir := dirOf path
  if dir ≠ "" ∧ dir ∉ c.dirs then throw .keyNotWritten
  set (c.withFile path (c.stored data))
  return (c.stored data).length

def read (path : String) (limit : Nat) (c : Card) : Except Error Bytes :=
  match c.files.get? path with
  | some data => .ok (data.take limit)
  | none => .error .keyNotRead

instance : KeyStorage Card where
  available := Card.inserted
  createDir path := modify fun c => if path ∈ c.dirs then c else { c with dirs := c.dirs ++ [path] }
  write := write
  read := read

end Card

end StorageAdapter.Memory
