import StorageAdapter.Text.Split

/-! # Media types

The kinds of image that the drives take, told by the extension of a filename. -/

namespace StorageAdapter

/-- The kind of an image file. -/
inductive MediaType where
  | unknown
  | d64
  | d71
  | d81
  | d80
  | d82
  | g64
  | t64
  | tap
  | crt
  | prg
  | d8b
  | dnp
deriving DecidableEq, Repr, Inhabited

namespace MediaType

/-- The number of a media type in directory records. -/
def code : MediaType → UInt8
  | unknown => 0
  | d64 => 1
  | d71 => 2
  | d81 => 3
  | d80 => 4
  | d82 => 5
  | g64 => 6
  | t64 => 7
  | tap => 8
  | crt => 9
  | prg => 10
  | d8b => 11
  | dnp => 12

/-- All media types, in the order of their numbers. -/
def all : List MediaType :=
  [unknown, d64, d71, d81, d80, d82, g64, t64, tap, crt, prg, d8b, dnp]

/-- The media type of a number. -/
def ofCode? (code : UInt8) : Option MediaType := all.find? (·.code == code)

/-- The extensions and the media types they tell. -/
def extensions : List (String × MediaType) :=
  [("d64", d64), ("d71", d71), ("d81", d81), ("d80", d80), ("d82", d82), ("g64", g64),
   ("t64", t64), ("tap", tap), ("crt", crt), ("prg", prg), ("d8b", d8b), ("dnp", dnp)]

/-- The media type of an extension in any case. -/
def ofExtension (ext : String) : MediaType :=
  (extensions.lookup (String.ofList (ext.toList.map Char.toLower))).getD unknown

/-- The media type told by what follows the last dot of a filename. -/
def ofFilename (name : String) : MediaType :=
  if '.' ∈ name.toList then
    ofExtension (String.ofList (name.toList.reverse.takeWhile (· != '.')).reverse)
  else unknown

/-- Whether images of this type are disks. -/
def isDisk : MediaType → Bool
  | d64 | d71 | d81 | d80 | d82 | g64 | d8b | dnp => true
  | _ => false

end MediaType

end StorageAdapter
