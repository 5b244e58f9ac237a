/-! # Parts of a text

Splitting at a separator, the last component of a path, and the two parts of an argument. -/

namespace StorageAdapter.Text

/-- The pieces between the separators; there is always one more piece than there are separators. -/
def splitAll {α : Type} [BEq α] (sep : α) : List α → List (List α)
  | [] => [[]]
  | x :: xs =>
    if x == sep then [] :: splitAll sep xs
    else match splitAll sep xs with
      | [] => [[x]]
      | piece :: pieces => (x :: piece) :: pieces

/-- What precedes and what follows the first separator; nothing follows if there is none. -/
def splitFirst {α : Type} [BEq α] (sep : α) : List α → List α × List α
  | [] => ([], [])
  | x :: xs =>
    if x == sep then ([], xs)
    else
      let (before, after) := splitFirst sep xs
      (x :: before, after)

/-- The list without its last element if that is `c`. -/
def dropLastEq (c : Char) (cs : List Char) : List Char :=
  if cs.getLast? = some c then cs.dropLast else cs

/-- The last component of a path whose components end in `/` or `\`. -/
def lastComponent (path : String) : String :=
  String.ofList (path.toList.reverse.takeWhile fun c => c != '/' && c != '\\').reverse

/-- A path and what follows the first delimiter, such as the pattern in `/games/~*.d64`. One slash
at the end of the path is dropped. -/
def splitPath (delimiter : Char) (s : String) : String × String :=
  let (path, rest) := splitFirst delimiter s.toList
  (String.ofList (dropLastEq '/' path), String.ofList rest)

end StorageAdapter.Text
