/-! # Readers

A reader takes a value off the beginning of a text, or refuses the text. A refused text is left as
it was, so that another reader can be tried on it. -/

namespace StorageAdapter.Toml

/-- Reads a value off the beginning of a text. -/
abbrev Reader (α : Type) : Type := StateT (List Char) Option α

namespace Reader

/-! ## Characters -/

/-- One character of a class. -/
def one (p : Char → Bool) : Reader Char := fun
  | c :: cs => if p c then some (c, cs) else none
  | [] => none

/-- A given character. -/
def char (c : Char) : Reader Unit := do
  let _ ← one (· == c)

/-- A given run of characters. -/
def word : List Char → Reader Unit
  | [] => pure ()
  | c :: cs => do
    char c
    word cs

/-- The longest run of characters of a class, which may be empty. -/
def run (p : Char → Bool) : Reader (List Char) := fun cs =>
  some (cs.takeWhile p, cs.dropWhile p)

/-- The longest run of characters of a class, which may not be empty. -/
def run1 (p : Char → Bool) : Reader (List Char) := do
  let cs ← run p
  if cs.isEmpty then failure
  return cs

/-- The next character, left in the text. -/
def next : Reader Char := fun
  | c :: cs => some (c, c :: cs)
  | [] => none

/-- The end of the text. -/
def atEnd : Reader Unit := fun
  | [] => some ((), [])
  | _ :: _ => none

/-! ## Repetition -/

/-- Reads items until the end of them is met, and yields them with what the end stands for. An item
that takes nothing off the text is refused. -/
def untilClosed {α β : Type} (close : Reader β) (item : Reader α) : Reader (List α × β) := fun cs =>
  match close cs with
  | some (b, rest) => some (([], b), rest)
  | none =>
    match item cs with
    | some (a, rest) =>
      if rest.length < cs.length then
        match untilClosed close item rest with
        | some ((items, b), rest) => some ((a :: items, b), rest)
        | none => none
      else none
    | none => none
termination_by cs => cs.length

/-- Reads items as long as there are any. -/
def many {α : Type} (item : Reader α) : Reader (List α) := fun cs =>
  match item cs with
  | some (a, rest) =>
    if rest.length < cs.length then
      match many item rest with
      | some (items, rest) => some (a :: items, rest)
      | none => none
    else some ([], cs)
  | none => some ([], cs)
termination_by cs => cs.length

/-! ## Between the parts of a document -/

/-- Whether a character is a space or a tab. -/
def isSpace (c : Char) : Bool := c == ' ' || c == '\t'

/-- Whether a character may stand anywhere inside a line: control characters other than the tab may
not. -/
def isPlain (c : Char) : Bool := c == '\t' || (32 ≤ c.toNat && c.toNat != 127)

/-- Spaces and tabs. -/
def spaces : Reader Unit := do
  let _ ← run isSpace

/-- The end of a line: a line feed, or a carriage return and a line feed. -/
def newline : Reader Unit := fun
  | '\n' :: cs => some ((), cs)
  | '\r' :: '\n' :: cs => some ((), cs)
  | _ => none

/-- A comment up to the end of its line. -/
def comment : Reader Unit := do
  char '#'
  let _ ← run isPlain

/-- The end of a line or of the text. -/
def lineEnd : Reader Unit := newline <|> atEnd

/-- What may follow on a line: spaces, a comment and the end of the line. -/
def lineRest : Reader Unit := do
  spaces
  let _ ← optional comment
  lineEnd

/-- Drops spaces and ends of lines. -/
def dropBlanks : List Char → List Char
  | '\n' :: cs => dropBlanks cs
  | '\r' :: '\n' :: cs => dropBlanks cs
  | c :: cs => if isSpace c then dropBlanks cs else c :: cs
  | [] => []

/-- Drops spaces, ends of lines and comments; `inComment` tells whether a comment has begun. -/
def dropGap (inComment : Bool) : List Char → List Char
  | '\n' :: cs => dropGap false cs
  | '\r' :: '\n' :: cs => dropGap false cs
  | c :: cs =>
    if inComment then
      if isPlain c then dropGap true cs else c :: cs
    else if isSpace c then dropGap false cs
    else if c == '#' then dropGap true cs
    else c :: cs
  | [] => []

/-- Spaces, ends of lines and comments. -/
def gap : Reader Unit := fun cs => some ((), dropGap false cs)

end Reader

end StorageAdapter.Toml
