import StorageAdapter.Keyword
import StorageAdapter.Text.Split
import StorageAdapter.Text.Utf8

/-! # Command lines

A line is a keyword and parameters between commas; the first colon counts as a comma, so
`MOUNTHOST:2` and `MOUNTHOST,2` are the same line. A parameter can be read as text, as the bytes
that were sent, or as everything from it to the end of the line. -/

namespace StorageAdapter

structure Line where
  /-- The line without its end and with its first colon made a comma. -/
  raw : Bytes
deriving DecidableEq, Repr

namespace Line

/-- The byte between parameters. -/
def comma : UInt8 := 44

/-- The byte that may stand behind the keyword. -/
def colon : UInt8 := 58

/-- The line without the carriage returns and line feeds at its end. -/
def withoutEnd (bs : Bytes) : Bytes := (bs.reverse.dropWhile fun b => b == 13 || b == 10).reverse

def replaceFirst (x y : UInt8) : Bytes → Bytes
  | [] => []
  | b :: bs => if b = x then y :: bs else b :: replaceFirst x y bs

/-- Reads a line. -/
def parse (payload : Bytes) : Line := ⟨replaceFirst colon comma (withoutEnd payload)⟩

/-- The keyword and the parameters as bytes. -/
def fields (l : Line) : List Bytes := Text.splitAll comma l.raw

/-- The keyword as it was typed. -/
def keyword (l : Line) : String := Text.decodeLossy (l.fields.headD [])

/-- The command that the keyword stands for. -/
def command (l : Line) : Option Command := Command.ofKeyword? l.keyword

def params (l : Line) : List String := l.fields.tail.map Text.decodeLossy

/-- The number of parameters. -/
def paramCount (l : Line) : Nat := l.params.length

/-- Parameter `i` as text, the first being 0. -/
def param (l : Line) (i : Nat) : Option String := l.params[i]?

/-- Parameter `i` as it was sent. -/
def paramBytes (l : Line) (i : Nat) : Option Bytes := l.fields.tail[i]?

/-- What follows the comma with `n` commas before it. -/
def afterComma : Nat → Bytes → Option Bytes
  | _, [] => none
  | n, b :: bs =>
    if b = comma then
      match n with
      | 0 => some bs
      | n + 1 => afterComma n bs
    else afterComma n bs

/-- The line from parameter `i` on, commas included. -/
def bytesFrom (l : Line) (i : Nat) : Option Bytes := afterComma i l.raw

end Line

end StorageAdapter
