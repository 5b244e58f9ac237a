/-! # Values and tables

The tree that a document describes. A table remembers how it came to be, since that decides what a
later line of the document may still add to it. -/

namespace StorageAdapter.Toml

/-- How a table came to be. -/
inductive Origin where
  /-- By its own header; it is also the origin of the table of the whole document. -/
  | header
  /-- By the header of a table inside it. -/
  | implied
  /-- By a dotted key. -/
  | dotted
  /-- In braces. -/
  | inline
deriving DecidableEq, Repr

/-- A value of a document. -/
inductive Node where
  | string (s : String)
  | integer (n : Int)
  /-- A floating-point number, which is not kept. -/
  | float
  | boolean (b : Bool)
  /-- A date or a time, which is not kept. -/
  | moment
  | array (items : List Node)
  | table (origin : Origin) (entries : List (String × Node))
  /-- The tables of headers in double brackets. -/
  | tables (elements : List (List (String × Node)))
deriving Repr, Inhabited

/-- The entries of a table, each key once. -/
abbrev Entries := List (String × Node)

namespace Entries

/-- The value of a key. -/
def get? (es : Entries) (key : String) : Option Node := es.lookup key

/-- Changes the value of a key, which may be absent; the change may be refused. -/
def alter (key : String) (f : Option Node → Option Node) : Entries → Option Entries
  | [] => (f none).map fun n => [(key, n)]
  | (k, n) :: rest =>
    if k = key then (f (some n)).map fun n => (k, n) :: rest
    else (alter key f rest).map ((k, n) :: ·)

/-- Adds a key, which may not be there yet. -/
def add (key : String) (n : Node) : Entries → Option Entries :=
  alter key fun
    | none => some n
    | some _ => none

/-- Changes the last table of a list. -/
def alterLast (f : Entries → Option Entries) : List Entries → Option (List Entries)
  | [] => none
  | [es] => (f es).map ([·])
  | es :: rest => (alterLast f rest).map (es :: ·)

/-! ## Dotted keys -/

/-- Adds the value of a dotted key. The tables on the way are made as needed. Those made by headers
of their own or in braces are closed, and the last one must have been made by dotted keys; `here`
tells whether that holds of this table. -/
def insert (here : Bool) : List String → String → Node → Entries → Option Entries
  | [], key, n, es => if here then add key n es else none
  | k :: path, key, n, es =>
    alter k
      (fun
        | none => (insert true path key n []).map (.table .dotted)
        | some (.table .dotted es) => (insert true path key n es).map (.table .dotted)
        | some (.table .implied es) => (insert false path key n es).map (.table .implied)
        | some (.tables elements) => (alterLast (insert false path key n) elements).map .tables
        | some _ => none)
      es

/-! ## Headers -/

/-- Changes the table at the path of a header. The tables on the way are made as needed, and of
tables in double brackets the last one is meant. Tables in braces are closed. -/
def within (f : Entries → Option Entries) : List String → Entries → Option Entries
  | [], es => f es
  | k :: path, es =>
    alter k
      (fun
        | none => (within f path []).map (.table .implied)
        | some (.table .inline _) => none
        | some (.table origin es) => (within f path es).map (.table origin)
        | some (.tables elements) => (alterLast (within f path) elements).map .tables
        | some _ => none)
      es

/-- Opens the table of a header, which may so far only have been implied. -/
def openTable (key : String) : Entries → Option Entries :=
  alter key fun
    | none => some (.table .header [])
    | some (.table .implied es) => some (.table .header es)
    | some _ => none

/-- Opens another table of a header in double brackets. -/
def openTables (key : String) : Entries → Option Entries :=
  alter key fun
    | none => some (.tables [[]])
    | some (.tables elements) => some (.tables (elements ++ [[]]))
    | some _ => none

end Entries

end StorageAdapter.Toml
