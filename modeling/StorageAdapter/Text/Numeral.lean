import StorageAdapter.Error
import StorageAdapter.Text.Blank

/-! # Numerals

Numbers in command lines are an optional `+` and one or more digits, with white space around them;
hexadecimal ones may begin with `0x`. A value above the limit of its type is refused, never
wrapped. -/

namespace StorageAdapter.Text

/-- The value of a digit in a base up to sixteen, in either case. -/
def digitValue (base : Nat) (c : Char) : Option Nat :=
  let n := c.toNat
  let value :=
    if 48 ≤ n ∧ n ≤ 57 then n - 48
    else if 97 ≤ n ∧ n ≤ 122 then n - 87
    else if 65 ≤ n ∧ n ≤ 90 then n - 55
    else 36
  if value < base then some value else none

/-- The value of a run of digits read after the value `acc`. -/
def digitsFrom (base acc : Nat) : List Char → Option Nat
  | [] => some acc
  | c :: cs => do digitsFrom base (acc * base + (← digitValue base c)) cs

/-- The value of one or more digits. -/
def digits (base : Nat) : List Char → Option Nat
  | [] => none
  | cs => digitsFrom base 0 cs

/-- The value of an unsigned numeral, an optional `+` and digits, up to `limit`. -/
def unsigned (base limit : Nat) (cs : List Char) : Option Nat :=
  let value := match cs with
    | '+' :: cs => digits base cs
    | cs => digits base cs
  value.filter (· ≤ limit)

/-- A numeral without its `0x` or `0X`. -/
def withoutMark : List Char → List Char
  | '0' :: 'x' :: cs => cs
  | '0' :: 'X' :: cs => cs
  | cs => cs

/-- The value of a decimal numeral up to `limit` in a command line. -/
def decimal? (limit : Nat) (token : String) : Option Nat :=
  unsigned 10 limit (trim token.toList)

/-- The value of a hexadecimal numeral up to `limit` in a command line. -/
def hexadecimal? (limit : Nat) (token : String) : Option Nat :=
  unsigned 16 limit (withoutMark (trim token.toList))

/-- Whether a text is a non-empty run of ASCII digits. -/
def isNumeral (s : String) : Bool := !s.isEmpty && s.toList.all Char.isDigit

/-! ## Arguments of commands -/

/-- A decimal byte, or the error that names what was expected. -/
def byteArgument (what token : String) : Except Error UInt8 :=
  match decimal? 255 token with
  | some n => .ok (UInt8.ofNat n)
  | none => .error (.parameter what)

def wordArgument (what token : String) : Except Error UInt16 :=
  match decimal? 65535 token with
  | some n => .ok (UInt16.ofNat n)
  | none => .error (.parameter what)

def hexByteArgument (what token : String) : Except Error UInt8 :=
  match hexadecimal? 255 token with
  | some n => .ok (UInt8.ofNat n)
  | none => .error (.parameter what)

def hexWordArgument (what token : String) : Except Error UInt16 :=
  match hexadecimal? 65535 token with
  | some n => .ok (UInt16.ofNat n)
  | none => .error (.parameter what)

end StorageAdapter.Text
