import StorageAdapter.Toml.Value

/-! # Documents

A document is a list of statements, one a line: pairs of a key and a value, and headers, which tell
the table that the pairs behind them belong to. -/

namespace StorageAdapter.Toml

open Reader

/-- A statement of a document. -/
inductive Statement where
  /-- A pair: the key, of which the last part stands apart, and the value. -/
  | pair (path : List String) (name : String) (n : Node)
  /-- The header of a table. -/
  | table (path : List String) (name : String)
  /-- The header of a table in a list of tables. -/
  | tables (path : List String) (name : String)
deriving Repr

namespace Statement

/-! ## Reading -/

/-- A header in single brackets. -/
def readTable : Reader Statement := do
  char '['
  let (path, name) ← key
  char ']'
  lineRest
  return .table path name

/-- A header in double brackets. -/
def readTables : Reader Statement := do
  word ['[', '[']
  let (path, name) ← key
  word [']', ']']
  lineRest
  return .tables path name

def readPair : Reader Statement := do
  let (path, name, n) ← Toml.pair (value (levelLimit - 1))
  lineRest
  return .pair path name n

/-- A line without a statement. -/
def blankLine : Reader Unit :=
  newline <|> do
    comment
    lineEnd

/-- A line, without the spaces at its beginning and with those at the beginning of the next. -/
def readLine : Reader (Option Statement) := do
  let s ← ((fun _ => none) <$> blankLine) <|> (some <$> readTables) <|> (some <$> readTable) <|>
    (some <$> readPair)
  spaces
  return s

/-- The mark that may stand at the beginning of a text. -/
def byteOrderMark : Reader Unit := char (Char.ofNat 0xFEFF)

/-- All statements of a document. -/
def readAll : Reader (List Statement) := do
  let _ ← optional byteOrderMark
  spaces
  let (lines, _) ← untilClosed atEnd readLine
  return lines.filterMap id

/-! ## Building the document -/

/-- The tree so far and the header that the next pairs belong to. -/
structure Progress where
  root : Entries := []
  header : List String := []

/-- Adds a statement to the tree. -/
def apply (p : Progress) : Statement → Option Progress
  | .pair path name n => do
    return { p with root := ← Entries.within (Entries.insert true path name n) p.header p.root }
  | .table path name => do
    return ⟨← Entries.within (Entries.openTable name) path p.root, path ++ [name]⟩
  | .tables path name => do
    return ⟨← Entries.within (Entries.openTables name) path p.root, path ++ [name]⟩

/-- The tree that statements describe. -/
def build (statements : List Statement) : Option Entries := do
  return (← statements.foldlM apply {}).root

end Statement

/-- The tree that a text describes. -/
def parse (text : String) : Option Entries := do
  let (statements, _) ← Statement.readAll text.toList
  Statement.build statements

end StorageAdapter.Toml
