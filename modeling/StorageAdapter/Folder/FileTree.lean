import StorageAdapter.Catalog
import StorageAdapter.Error
import StorageAdapter.Text.Utf8

/-! # File trees

Files and directories below a working directory, each under its path. A path that is walked may
hold empty parts and dots, which stay where they are; every part behind a name needs a directory
before it. -/

namespace StorageAdapter.Folder

/-! ## Faults -/

/-- Why the operating system refuses a path. -/
inductive Fault where
  | notFound
  | alreadyThere
  | notDirectory
  | isDirectory
  | nameTooLong
  /-- The path holds a NUL. -/
  | holdsNul
  /-- The file is not text. -/
  | notText
deriving DecidableEq, Repr

namespace Fault

def text : Fault → String
  | notFound => "No such file or directory (os error 2)"
  | alreadyThere => "File exists (os error 17)"
  | notDirectory => "Not a directory (os error 20)"
  | isDirectory => "Is a directory (os error 21)"
  | nameTooLong => "File name too long (os error 36)"
  | holdsNul => "file name contained an unexpected NUL byte"
  | notText => "stream did not contain valid UTF-8"

/-- The error that a fault is reported as. -/
def toError (f : Fault) : Error := .io ("I/O error: " ++ f.text)

end Fault

/-! ## Trees -/

/-- The names on the way to a file or a directory. -/
abbrev Path := List String

namespace Path

def text (p : Path) : String := "/".intercalate p

/-- Whether a part of a path stays where it is. -/
def stays (part : String) : Bool := part == "" || part == "."

/-- The longest name in bytes. -/
def nameLimit : Nat := 255

/-- The longest path in bytes. -/
def limit : Nat := 4095

/-- What is wrong with a path, wherever it may lead. -/
def fault? (p : Path) : Option Fault :=
  if p.any fun part => part.toList.contains '\x00' then some .holdsNul
  else if limit < Text.size p.text then some .nameTooLong
  else none

end Path

/-- What a file holds: some bytes, and behind them a number of NUL. -/
structure Content where
  bytes : Bytes
  zeros : Nat := 0
deriving DecidableEq, Repr

namespace Content

/-- The number of bytes of a file. -/
def size (c : Content) : Nat := c.bytes.length + c.zeros

/-- The first bytes of a file, at most `n` of them. -/
def take (c : Content) (n : Nat) : Bytes :=
  c.bytes.take n ++ List.replicate (min c.zeros (n - c.bytes.length)) 0

/-- All bytes of a file. -/
def toBytes (c : Content) : Bytes := c.take c.size

end Content

structure Item where
  /-- What a file holds; a directory holds nothing. -/
  content : Option Content
  /-- The seconds since the beginning of 1970. -/
  modified : Int := 0
deriving DecidableEq, Repr

namespace Item

/-- An empty directory. -/
def dir : Item := { content := none }

def file (c : Content) : Item := { content := some c }

/-- Whether this is a directory. -/
def isDir (i : Item) : Bool := i.content.isNone

/-- The size that is told of a directory. -/
def dirSize : Nat := 4096

/-- The size that is told. -/
def size (i : Item) : Nat := (i.content.map Content.size).getD dirSize

end Item

/-- A file tree. The working directory itself is always there. -/
structure FileTree where
  items : Catalog Path Item := {}
deriving DecidableEq, Repr

namespace FileTree

/-- What lies at a path. -/
def item? (t : FileTree) (p : Path) : Option Item := if p = [] then some .dir else t.items.get? p

/-- Whether a directory lies at a path. -/
def isDirAt (t : FileTree) (p : Path) : Bool := (t.item? p).any (·.isDir)

/-- The items in a directory, by name. -/
def children (t : FileTree) (dir : Path) : List (String × Item) :=
  t.items.entries.filterMap fun (p, item) =>
    match p.getLast? with
    | some name => if p.dropLast = dir then some (name, item) else none
    | none => none

def put (t : FileTree) (p : Path) (item : Item) : FileTree := ⟨t.items.put p item⟩

/-- The tree with directories made on the way to a path. -/
def putDirs (t : FileTree) (p : Path) : FileTree :=
  (List.range p.length).foldl
    (fun t n => if (t.item? (p.take (n + 1))).isSome then t else t.put (p.take (n + 1)) .dir) t

/-- The tree with an item put at a path, and directories made on the way to it. -/
def putBelow (t : FileTree) (p : Path) (item : Item) : FileTree := (t.putDirs p.dropLast).put p item

/-- The tree without an item and what is in it. -/
def remove (t : FileTree) (p : Path) : FileTree := ⟨t.items.eraseWhere (p.isPrefixOf ·)⟩

/-- The tree with other times of modification. -/
def setTimes (t : FileTree) (time : Path → Int) : FileTree :=
  ⟨⟨t.items.entries.map fun (p, item) => (p, { item with modified := time p })⟩⟩

/-! ## Walking -/

/-- Walks from a place in the tree along the parts of a path, and yields where they lead. -/
def walkFrom (t : FileTree) (here : Path) : Path → Except Fault Path
  | [] => .ok here
  | part :: rest =>
    if !t.isDirAt here then .error .notDirectory
    else if Path.stays part then walkFrom t here rest
    else if Path.nameLimit < Text.size part then .error .nameTooLong
    else if (t.item? (here ++ [part])).isNone then .error .notFound
    else walkFrom t (here ++ [part]) rest

/-- Walks along the parts of a path. -/
def walk (t : FileTree) (p : Path) : Except Fault Path :=
  match p.fault? with
  | some f => .error f
  | none => t.walkFrom [] p

/-- What lies where a path leads. -/
def find (t : FileTree) (p : Path) : Except Fault Item := do
  match t.item? (← t.walk p) with
  | some item => .ok item
  | none => .error .notFound

/-- Whether a path leads to a directory. -/
def isDir (t : FileTree) (p : Path) : Bool := (t.find p).toOption.any (·.isDir)

/-- The place of a new item: the directory that it lies in, and its name. -/
def place (t : FileTree) (p : Path) (name : String) : Except Fault Path := do
  if let some f := Path.fault? (p ++ [name]) then throw f
  let dir ← t.walkFrom [] p
  if !t.isDirAt dir then throw .notDirectory
  if Path.nameLimit < Text.size name then throw .nameTooLong
  return dir ++ [name]

/-! ## Changing the tree -/

/-- What may change a file tree and ends in a value or a fault. -/
abbrev Change (α : Type) : Type := EStateM Fault FileTree α

instance : MonadLift (Except Fault) (EStateM Fault FileTree) where
  monadLift
    | .ok a => pure a
    | .error f => throw f

/-- A path without the empty parts at its end. -/
def withoutSlashes (p : Path) : Path := (p.reverse.dropWhile (· == "")).reverse

/-- Makes a directory. -/
def makeDir (p : Path) : Change Unit := do
  if let some f := Path.fault? p then throw f
  let parts := withoutSlashes p
  let t ← get
  let name := parts.getLastD "."
  if name = "." then
    if t.isDirAt (← t.walkFrom [] parts.dropLast) then throw .alreadyThere else throw .notDirectory
  let place ← t.place parts.dropLast name
  if (t.item? place).isSome then throw .alreadyThere
  set (t.put place .dir)

/-- A path without the parts at its end that stay where they are. -/
def withoutStays (p : Path) : Path := (p.reverse.dropWhile Path.stays).reverse

/-- The path of the directory that a path lies in. -/
def above (p : Path) : Path := withoutStays (withoutStays p).dropLast

theorem length_withoutStays_le (p : Path) : (withoutStays p).length ≤ p.length := by
  have h := (List.dropWhile_sublist Path.stays (l := p.reverse)).length_le
  simpa [withoutStays] using h

theorem length_above_lt {p : Path} (h : p ≠ []) : (above p).length < p.length := by
  have h1 := length_withoutStays_le (withoutStays p).dropLast
  have h2 := length_withoutStays_le p
  have h3 := List.length_pos_iff.mpr h
  simp only [above, List.length_dropLast] at *
  omega

/-- A fault is none if there is a directory all the same. -/
def unlessDir (p : Path) (change : Change Unit) : Change Unit :=
  tryCatch change fun f => do
    if (← get).isDir p then return
    throw f

/-- Makes a directory and those above it. -/
def makeDirs (p : Path) : Change Unit :=
  if _ : p = [] then pure ()
  else tryCatch (makeDir p) fun f => do
    if f = .notFound then
      makeDirs (above p)
      unlessDir p (makeDir p)
    else if (← get).isDir p then return
    else throw f
termination_by p.length
decreasing_by exact length_above_lt ‹_›

/-- Replaces what a file holds, making the file if needed. -/
def writeFile (p : Path) (data : Bytes) : Change Unit := do
  let t ← get
  let name := p.getLastD ""
  if Path.stays name then throw .isDirectory
  let place ← t.place p.dropLast name
  match t.item? place with
  | some item =>
    if item.isDir then throw .isDirectory
    set (t.put place { item with content := some { bytes := data } })
  | none => set (t.put place (.file { bytes := data }))

end FileTree

end StorageAdapter.Folder
