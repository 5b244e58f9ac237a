import StorageAdapter.Text.Numeral
import StorageAdapter.Toml.Reader

/-! # Numbers

Integers of 64 bits in four bases, and floating-point numbers, of which only the form is checked.
Digits may be set apart by single underscores. -/

namespace StorageAdapter.Toml.Number

open Reader

/-! ## Digits -/

/-- Whether a character is a digit in a base. -/
def isDigit (base : Nat) (c : Char) : Bool := (Text.digitValue base c).isSome

/-- The digits at the beginning of a text, without the underscores between them, and the rest. -/
def digitsAndRest (base : Nat) : List Char → List Char × List Char
  | [] => ([], [])
  | [c] => if isDigit base c then ([c], []) else ([], [c])
  | c :: d :: cs =>
    if isDigit base c then
      let (digits, rest) := digitsAndRest base (d :: cs)
      (c :: digits, rest)
    else if c = '_' ∧ isDigit base d then
      let (digits, rest) := digitsAndRest base cs
      (d :: digits, rest)
    else ([], c :: d :: cs)

/-- One or more digits. -/
def digits (base : Nat) : Reader (List Char) := do
  let first ← one (isDigit base)
  let more ← fun cs => some (digitsAndRest base cs)
  return first :: more

def valueOf (base : Nat) (ds : List Char) : Nat := (Text.digitsFrom base 0 ds).getD 0

/-- A sign, if there is one: whether it is a minus. -/
def sign : Reader Bool := fun
  | '-' :: cs => some (true, cs)
  | '+' :: cs => some (false, cs)
  | cs => some (false, cs)

/-- The digits of a decimal integer: a zero, or digits that do not begin with one. -/
def plainDigits : Reader (List Char) := fun
  | '0' :: cs => some (['0'], cs)
  | cs => digits 10 cs

/-! ## Integers -/

/-- An integer, if it fits in 64 bits. -/
def fitting (n : Int) : Reader Int :=
  if -9223372036854775808 ≤ n ∧ n ≤ 9223372036854775807 then pure n else failure

def integer : Reader Int := fun
  | '0' :: 'x' :: cs => (do fitting (valueOf 16 (← digits 16)) : Reader Int) cs
  | '0' :: 'o' :: cs => (do fitting (valueOf 8 (← digits 8)) : Reader Int) cs
  | '0' :: 'b' :: cs => (do fitting (valueOf 2 (← digits 2)) : Reader Int) cs
  | cs => (do
    let negative ← sign
    let n : Nat := valueOf 10 (← plainDigits)
    fitting (if negative then -n else n) : Reader Int) cs

/-! ## Floating-point numbers -/

/-- Whether `m * 10 ^ e` lies beyond the largest number of double precision: from halfway to the
next power of two on, it would be rounded to infinity. -/
def overflows (m : Nat) (e : Int) : Bool :=
  let bound := (Nat.pow 2 54 - 1) * Nat.pow 2 970
  let digits := (toString m).length
  if m = 0 then false
  else if 310 < digits + e then true
  else if digits + e < 300 then false
  else if 0 ≤ e then bound ≤ m * Nat.pow 10 e.toNat
  else bound * Nat.pow 10 (-e).toNat ≤ m

/-- The digits behind a point. -/
def fraction : Reader (List Char) := do
  char '.'
  digits 10

/-- The exponent behind an `e`. -/
def exponent : Reader Int := do
  let _ ← one fun c => c == 'e' || c == 'E'
  let negative ← sign
  let n : Nat := valueOf 10 (← digits 10)
  return if negative then -n else n

/-- A number with a fraction or an exponent, which may not be beyond the largest one. -/
def decimal : Reader Unit := do
  let negative ← sign
  let whole ← plainDigits
  let part ← optional fraction
  let power ← optional exponent
  if part.isNone && power.isNone then failure
  let part := part.getD []
  if !negative && overflows (valueOf 10 (whole ++ part)) (power.getD 0 - part.length) then failure

/-- Infinity, or no number. -/
def special : Reader Unit := do
  let _ ← sign
  word ['i', 'n', 'f'] <|> word ['n', 'a', 'n']

/-- A floating-point number. -/
def float : Reader Unit := decimal <|> special

end StorageAdapter.Toml.Number
