import StorageAdapter.Line
import StorageAdapter.Opcode

/-! # Frames

What an inbound frame means depends on the command that is pending. With none pending, the marker
and an opcode begin a command and any other bytes are a command line. With an opcode pending, the
frame is its data, whatever it looks like. -/

namespace StorageAdapter

/-- What an inbound frame is. -/
inductive Frame where
  /-- No bytes: nothing to do. -/
  | empty
  /-- The frame of a known opcode. -/
  | opened (op : Opcode)
  /-- The frame of an unknown opcode. -/
  | unknown (code : UInt8)
  /-- A command line. -/
  | line (l : Line)
  /-- Data for the pending opcode. -/
  | data (op : Opcode) (payload : Bytes)
deriving DecidableEq, Repr

/-- The command carried from one frame to the next. -/
inductive Pending where
  /-- No command. -/
  | idle
  /-- The opcode frame has arrived, and the opcode has not been tried yet. -/
  | opened (op : Opcode)
  /-- The opcode waits for its data. -/
  | waiting (op : Opcode)
deriving DecidableEq, Repr

namespace Pending

/-- Reads a frame with no command pending. -/
def decodeIdle (payload : Bytes) : Frame × Pending :=
  match payload with
  | [first, code] =>
    if first = Opcode.marker then
      match Opcode.ofByte? code with
      | some op => (.opened op, .opened op)
      | none => (.unknown code, .idle)
    else (.line (Line.parse payload), .idle)
  | _ => (.line (Line.parse payload), .idle)

/-- Reads a frame: what it is, and the command pending afterwards. -/
def decode (pending : Pending) (payload : Bytes) : Frame × Pending :=
  if payload.isEmpty then (.empty, pending)
  else match pending with
    | idle => decodeIdle payload
    | opened op => (.data op payload, .waiting op)
    | waiting op => (.data op payload, .waiting op)

/-- After the try without data: an opcode that was not handled waits for its data. -/
def tried (pending : Pending) (handled : Bool) : Pending :=
  match pending with
  | opened op => if handled then .idle else .waiting op
  | other => other

/-- After data was offered: an opcode that was not handled stays pending. -/
def offered (pending : Pending) (handled : Bool) : Pending :=
  if handled then .idle else pending

end Pending

end StorageAdapter
