/-! # Errors

Why a command may fail. No error is fatal: each becomes a status code and a message on the bus, and
the adapter carries on with the next frame. -/

namespace StorageAdapter

/-- The table that a slot number was checked against. -/
inductive SlotTable where
  | host
  | device
deriving DecidableEq, Repr

namespace SlotTable

/-- The name of the table in messages. -/
def name : SlotTable → String
  | host => "host"
  | device => "device"

end SlotTable

/-- Why a command failed. -/
inductive Error where
  /-- Missing or malformed arguments. -/
  | parameter (what : String)
  /-- A slot number outside its table. -/
  | slotRange (kind : SlotTable) (index : UInt8)
  /-- Storage or a session that the command needs is absent. -/
  | unavailable (what : String)
  /-- Storage failed to open, read or write. -/
  | io (what : String)
  /-- An opcode that this adapter does not know. -/
  | unsupported (opcode : UInt8)
  /-- The network could not be joined. -/
  | notConnected
deriving DecidableEq, Repr

namespace Error

/-- The status code of success. -/
def successCode : UInt8 := 0

/-- The code of an error on the status channel. -/
def code : Error → UInt8
  | parameter _ => 1
  | slotRange _ _ => 2
  | unavailable _ => 3
  | io _ => 4
  | unsupported _ => 5
  | notConnected => 207

/-- The uppercase hexadecimal digit of a value below sixteen. -/
def hexDigit (n : Nat) : Char := if n < 10 then Char.ofNat (48 + n) else Char.ofNat (55 + n)

/-- The two uppercase hexadecimal digits of a byte. -/
def hexPair (b : UInt8) : String := String.ofList [hexDigit (b.toNat / 16), hexDigit (b.toNat % 16)]

def message : Error → String
  | parameter what => what
  | slotRange kind index => "invalid " ++ kind.name ++ " slot " ++ toString index.toNat
  | unavailable what => what
  | io what => what
  | unsupported opcode => "unrecognised command 0x" ++ hexPair opcode
  | notConnected => "not connected"

/-! ## Arguments -/

/-- Too few or too many arguments. -/
def parameterCount : Error := .parameter "invalid # of parameters"

/-- A block of slots that does not have the size of its table. -/
def payloadSize : Error := .parameter "payload size incorrect"

/-! ## Slots and directories -/

/-- A disk slot that refers to no host. -/
def noHostForSlot : Error := .parameter "no host for device slot"

/-- A disk slot without a filename. -/
def noFilenameForSlot : Error := .parameter "no filename for device slot"

/-- A filename that does not fit a disk slot. -/
def filenameTooLong : Error := .parameter "invalid filename - too long"

/-- A host slot without a name. -/
def noHostConfigured : Error := .unavailable "no host configured in slot"

/-- A host slot that is not mounted. -/
def hostNotMounted : Error := .unavailable "host not mounted"

/-- No directory is open. -/
def noDirectory : Error := .unavailable "no currently open directory"

/-- A position outside the listing. -/
def seekFailed : Error := .io "unable to perform directory seek"

/-- A directory that cannot be listed. -/
def notListed : Error := .io "failed to open directory"

/-- A file that cannot be opened. -/
def notOpened : Error := .io "no file handle"

/-! ## App keys -/

/-- No card for app keys. -/
def noCard : Error := .unavailable "sd card not mounted"

/-- A key file that cannot be written. -/
def keyNotWritten : Error := .io "failed to open output file"

/-- A key file that cannot be read. -/
def keyNotRead : Error := .io "failed to read appkey file"

end Error

end StorageAdapter
