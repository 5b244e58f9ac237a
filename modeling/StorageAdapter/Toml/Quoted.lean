import StorageAdapter.Text.Numeral
import StorageAdapter.Toml.Reader

/-! # Quoted strings

A string stands between double quotes, where a backslash begins an escape, or between single
quotes, where every character stands for itself. Three quotes at either end let it run over several
lines. What is written reads back as it was; `write` chooses the quotes that need the fewest
escapes. -/

namespace StorageAdapter.Toml.Quoted

open Reader

/-! ## Escapes -/

/-- The character with the code point that hexadecimal digits give. -/
def charOfDigits (digits : List Char) : Option Char := do
  let n ← Text.digitsFrom 16 0 digits
  if h : n.isValidChar then some (Char.ofNatAux n h) else none

/-- The escapes of one character, and what they stand for. -/
def shortEscapes : List (Char × Char) :=
  [('b', '\x08'), ('t', '\t'), ('n', '\n'), ('f', '\x0c'), ('r', '\x0d'), ('"', '"'), ('\\', '\\')]

/-- What follows the backslash of an escape. -/
def escape : Reader Char := fun
  | 'u' :: a :: b :: c :: d :: cs => (charOfDigits [a, b, c, d]).map (·, cs)
  | 'U' :: a :: b :: c :: d :: e :: f :: g :: h :: cs =>
    (charOfDigits [a, b, c, d, e, f, g, h]).map (·, cs)
  | c :: cs => (shortEscapes.lookup c).map (·, cs)
  | [] => none

/-- What follows a backslash at the end of a line: everything up to the next character that is
neither a space nor the end of a line. -/
def continuation : Reader Unit := do
  spaces
  newline
  modify dropBlanks

/-! ## Reading -/

/-- A character between two double quotes. -/
def basicPiece : Reader (List Char) := fun
  | '\\' :: cs => (escape cs).map fun (c, cs) => ([c], cs)
  | c :: cs => if isPlain c && c != '"' then some ([c], cs) else none
  | [] => none

/-- A character between two single quotes. -/
def literalPiece : Reader (List Char) := fun
  | c :: cs => if isPlain c && c != '\'' then some ([c], cs) else none
  | [] => none

/-- A character of a string that may run over several lines; an end of a line is a line feed. -/
def linePiece : Reader (List Char) := fun cs =>
  match newline cs with
  | some ((), cs) => some (['\n'], cs)
  | none =>
    match cs with
    | c :: cs => if isPlain c then some ([c], cs) else none
    | [] => none

/-- A character between three double quotes, or the end of a line that goes on. -/
def multilinePiece : Reader (List Char) := fun
  | '\\' :: cs =>
    match continuation cs with
    | some ((), cs) => some ([], cs)
    | none => (escape cs).map fun (c, cs) => ([c], cs)
  | cs => linePiece cs

/-- The quote that ends a string. -/
def closeOne (q : Char) : Reader (List Char) := fun
  | c :: cs => if c = q then some ([], cs) else none
  | [] => none

/-- The three quotes that end a string; up to two quotes before them belong to the string. -/
def closeThree (q : Char) : Reader (List Char) := fun
  | a :: b :: c :: cs =>
    if a = q ∧ b = q ∧ c = q then
      let extra := min 2 (cs.takeWhile (· == q)).length
      some (cs.take extra, cs.drop extra)
    else none
  | _ => none

/-- The rest of a string up to its end. -/
def contents (close piece : Reader (List Char)) : Reader String := do
  let (pieces, last) ← untilClosed close piece
  return String.ofList (pieces.flatten ++ last)

/-- The rest of a string between three quotes; an end of a line at its beginning is dropped. -/
def multilineContents (close piece : Reader (List Char)) : Reader String := do
  let _ ← optional newline
  contents close piece

def readLine : Reader String := fun
  | '"' :: cs => contents (closeOne '"') basicPiece cs
  | '\'' :: cs => contents (closeOne '\'') literalPiece cs
  | _ => none

def read : Reader String := fun
  | '"' :: '"' :: '"' :: cs => multilineContents (closeThree '"') multilinePiece cs
  | '\'' :: '\'' :: '\'' :: cs => multilineContents (closeThree '\'') linePiece cs
  | cs => readLine cs

/-! ## Writing -/

/-- Whether a character is a control character other than tab and line feed. -/
def isControl (c : Char) : Bool := !isPlain c && c != '\n'

/-- Whether a character stands three times in a row. -/
def hasTriple (q : Char) : List Char → Bool
  | a :: b :: c :: cs => (a == q && b == q && c == q) || hasTriple q (b :: c :: cs)
  | _ => false

/-- The escape of a character other than a quote. -/
def writeEscape (c : Char) : List Char :=
  if c = '\x08' then ['\\', 'b']
  else if c = '\t' then ['\\', 't']
  else if c = '\n' then ['\\', 'n']
  else if c = '\x0c' then ['\\', 'f']
  else if c = '\x0d' then ['\\', 'r']
  else if c = '\\' then ['\\', '\\']
  else ['\\', 'u', '0', '0', Error.hexDigit (c.toNat / 16), Error.hexDigit (c.toNat % 16)]

/-- Whether a character needs an escape between double quotes, a quote apart. -/
def needsEscape (c : Char) : Bool := c == '\\' || c == '\t' || !isPlain c

/-- The characters between two double quotes. -/
def writeBasic : List Char → List Char
  | [] => []
  | c :: cs =>
    (if c = '"' then ['\\', '"'] else if needsEscape c then writeEscape c else [c]) ++ writeBasic cs

/-- The characters between three double quotes, behind a number of quotes in a row. The third quote
in a row is escaped. -/
def writeMultiline (quotes : Nat) : List Char → List Char
  | [] => []
  | c :: cs =>
    if c = '"' then
      if quotes < 2 then '"' :: writeMultiline (quotes + 1) cs
      else '\\' :: '"' :: writeMultiline 0 cs
    else if c = '\n' then '\n' :: writeMultiline 0 cs
    else if needsEscape c then writeEscape c ++ writeMultiline 0 cs
    else c :: writeMultiline 0 cs

/-- A string between three quotes; one of several lines begins on a line of its own. -/
def between (quotes cs contents : List Char) : List Char :=
  quotes ++ (if '\n' ∈ cs then ['\n'] else []) ++ contents ++ quotes

/-- A string in quotes: double quotes if they need no escape, else single ones if they can hold it,
else three of either, else double quotes with escapes. -/
def writeChars (cs : List Char) : List Char :=
  if !cs.any isControl && !cs.any (fun c => c == '\\' || c == '\n' || c == '"') then
    '"' :: writeBasic cs ++ ['"']
  else if !cs.any isControl && !cs.any (fun c => c == '\n' || c == '\'') then
    '\'' :: cs ++ ['\'']
  else if !cs.any isControl && !cs.contains '\\' && !hasTriple '"' cs then
    between ['"', '"', '"'] cs (writeMultiline 0 cs)
  else if !cs.any isControl && !hasTriple '\'' cs then
    between ['\'', '\'', '\''] cs cs
  else if cs.contains '\n' then between ['"', '"', '"'] cs (writeMultiline 0 cs)
  else '"' :: writeBasic cs ++ ['"']

/-- A string in quotes. -/
def write (s : String) : String := String.ofList (writeChars s.toList)

end StorageAdapter.Toml.Quoted
