import StorageAdapter.Toml.Moment
import StorageAdapter.Toml.Node
import StorageAdapter.Toml.Number
import StorageAdapter.Toml.Quoted

/-! # Values and keys

A value is a string, a number, a truth value, a date or time, an array in brackets or a table in
braces. Arrays may run over several lines and end in a comma; tables in braces may not. Values nest
to a limited depth, and so do keys. -/

namespace StorageAdapter.Toml

open Reader

/-! ## Keys -/

/-- Whether a character may stand in a key without quotes. -/
def isBareKeyChar (c : Char) : Bool := c.isAlphanum || c == '-' || c == '_'

/-- A key without quotes. -/
def bareKey : Reader String := do return String.ofList (← run1 isBareKeyChar)

/-- A part of a dotted key, with the spaces around it. -/
def keyPart : Reader String := do
  spaces
  let key ← Quoted.readLine <|> bareKey
  spaces
  return key

/-- A part of a dotted key behind a dot. -/
def nextKeyPart : Reader String := do
  char '.'
  keyPart

/-- The number of levels that a document is limited to. -/
def levelLimit : Nat := 80

/-- A key, dotted or not: the parts before the last one, and the last one. -/
def key : Reader (List String × String) := do
  let first ← keyPart
  let more ← many nextKeyPart
  if levelLimit ≤ more.length + 1 then failure
  let parts := first :: more
  return (parts.dropLast, parts.getLastD first)

/-! ## Values -/

/-- A truth value. -/
def boolean : Reader Bool :=
  (do word ['t', 'r', 'u', 'e']; return true) <|> (do word ['f', 'a', 'l', 's', 'e']; return false)

/-- A value that holds no others. -/
def scalar : Reader Node :=
  (Node.string <$> Quoted.read) <|> ((fun _ => Node.moment) <$> Moment.read) <|>
    ((fun _ => Node.float) <$> Number.float) <|> (Node.integer <$> Number.integer) <|>
    (Node.boolean <$> boolean)

/-- What stands behind an item: a separator and what may follow it, or the end of the list, which
is left in the text. -/
def separator (close : Char) (afterComma : Reader Unit) : Reader Unit := do
  let c ← next
  if c = close then return
  char ','
  afterComma

/-- An item of an array and what separates it from the next one. -/
def arrayItem (value : Reader Node) : Reader Node := do
  let n ← value
  gap
  separator ']' gap
  return n

def array (value : Reader Node) : Reader Node := do
  char '['
  gap
  let (items, _) ← untilClosed (char ']') (arrayItem value)
  return .array items

def pair (value : Reader Node) : Reader (List String × String × Node) := do
  let (path, name) ← key
  char '='
  spaces
  return (path, name, ← value)

/-- What may follow a comma in braces: anything but the end. -/
def anotherPair : Reader Unit := do
  spaces
  if (← next) = '}' then failure

/-- A pair in braces and what separates it from the next one. -/
def inlinePair (value : Reader Node) : Reader (List String × String × Node) := do
  let p ← pair value
  spaces
  separator '}' anotherPair
  return p

/-- The table of pairs in braces. -/
def tableOfPairs (pairs : List (List String × String × Node)) : Option Entries :=
  pairs.foldlM (fun es (path, name, n) => Entries.insert true path name n es) []

/-- A table in braces. -/
def inlineTable (value : Reader Node) : Reader Node := do
  char '\x7b'
  spaces
  let (pairs, _) ← untilClosed (char '\x7d') (inlinePair value)
  match tableOfPairs pairs with
  | some es => return .table .inline es
  | none => failure

/-- A value that holds others at most `depth` levels deep. -/
def value : Nat → Reader Node
  | 0 => scalar
  | depth + 1 => scalar <|> array (value depth) <|> inlineTable (value depth)

end StorageAdapter.Toml
