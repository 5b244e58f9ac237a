import StorageAdapter.Text.Utf8

/-! # Texts cut to a number of bytes

Fields and client buffers are measured in bytes, but a cut never splits a character. `clip` keeps
the longest beginning that fits, `clipStart` the longest end, and `shorten` a part of both ends
around three dots. -/

namespace StorageAdapter.Text

/-- The longest beginning of whole characters within `n` bytes. -/
def headWithin : Nat → List Char → List Char
  | _, [] => []
  | n, c :: cs => if c.utf8Size ≤ n then c :: headWithin (n - c.utf8Size) cs else []

/-- The number of bytes of a list of characters. -/
def width : List Char → Nat
  | [] => 0
  | c :: cs => c.utf8Size + width cs

/-- The longest end of whole characters within `n` bytes. -/
def tailWithin (n : Nat) : List Char → List Char
  | [] => []
  | c :: cs => if width (c :: cs) ≤ n then c :: cs else tailWithin n cs

/-- The longest beginning of a text within `n` bytes. -/
def clip (n : Nat) (s : String) : String := String.ofList (headWithin n s.toList)

/-- The longest end of a text within `n` bytes. -/
def clipStart (n : Nat) (s : String) : String := String.ofList (tailWithin n s.toList)

/-- The text within `limit` bytes: itself if it fits, cut if there is no room for dots, and
otherwise its two ends around three dots, with the odd byte going to the end. -/
def shorten (limit : Nat) (s : String) : String :=
  if size s ≤ limit then s
  else if limit < 5 then clip limit s
  else
    let front := (limit - 3) / 2
    clip front s ++ "..." ++ clipStart (limit - 3 - front) s

end StorageAdapter.Text
