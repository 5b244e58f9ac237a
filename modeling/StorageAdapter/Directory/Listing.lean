import StorageAdapter.Directory.Entry

/-! # Listings

An open listing: its entries, fixed when it was opened, and how many of them have been read. -/

namespace StorageAdapter

/-- An open listing and the position in it. -/
structure Listing where
  entries : List DirectoryEntry
  position : Nat := 0
deriving DecidableEq, Repr

namespace Listing

/-- The position that stands for no position. -/
def noPosition : UInt16 := 0xFFFF

/-- The next entry, if any is left, and the listing behind it. -/
def next (l : Listing) : Option DirectoryEntry × Listing :=
  match l.entries[l.position]? with
  | some e => (some e, { l with position := l.position + 1 })
  | none => (none, l)

/-- The listing moved to a position, which may be at most behind the last entry. -/
def seek? (l : Listing) (position : Nat) : Option Listing :=
  if position ≤ l.entries.length then some { l with position := position } else none

/-- The entries that are left. -/
def rest (l : Listing) : List DirectoryEntry := l.entries.drop l.position

end Listing

end StorageAdapter
