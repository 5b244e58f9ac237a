import StorageAdapter.Device.Lines
import StorageAdapter.Device.Opcodes

/-! # One frame at a time

`receive` reads one frame, runs what it asks for and yields one reply. A command that succeeds
leaves its message, one that fails leaves its error; a line caller reads the error as text, too.
Frames that run no command leave the status as it is. -/

namespace StorageAdapter.Device

variable {W R D : Type} [HostStorage W R] [SettingsStore W] [KeyStorage W] [DriveBay D]

/-! ## Outcomes -/

/-- Notes an error. Callers of lines read its message, too. -/
def fail (format : BusFormat) (e : Error) (d : Device W R D) : Device W R D :=
  let status := d.status.fail e
  match format with
  | .raw => { d with status }
  | .basic => { d with status, response := d.response.put .basic (Text.encode status.message) }

/-- Runs a command to its end and notes the error if it fails. -/
def finish (format : BusFormat) (act : Action (Device W R D) Unit) (d : Device W R D) :
    Device W R D :=
  match act d with
  | .ok () d => d
  | .error e d => d.fail format e

/-- The run of an opcode on its own frame. A success is noted before it begins, except by the opcode
that reads the status. -/
def opcodeRun (op : Opcode) (act : Action (Device W R D) Unit) : Action (Device W R D) Unit := do
  if op ≠ .status then succeed ""
  act

/-- The run of an opcode on its data. A success is noted when it ends, whichever way. -/
def dataRun (act : Action (Device W R D) Unit) : Action (Device W R D) Unit :=
  try act finally succeed ""

/-- The run of a command line. A success is noted before it begins, except by the line that tells
the status. -/
def lineRun (command : Command) (l : Line) : Action (Device W R D) Unit := do
  if command ≠ .status then succeed "ok"
  runLine command l

/-! ## Frames -/

/-- Tries an opcode on its own frame; one that needs data waits for it. -/
def tryOpcode (op : Opcode) (frame : Bytes) (d : Device W R D) : Device W R D :=
  match runOpcode op frame with
  | some act =>
    let d := finish .raw (opcodeRun op act) d
    { d with pending := d.pending.tried true }
  | none => { d with pending := d.pending.tried false }

/-- Gives the pending opcode its data. -/
def offerData (op : Opcode) (data : Bytes) (d : Device W R D) : Device W R D :=
  match runOpcodeWithData op data with
  | some act =>
    let d := finish .raw (dataRun act) d
    { d with pending := d.pending.offered true }
  | none => { d with pending := d.pending.offered false }

/-- Runs what a frame asks for and yields the wire format of its reply. -/
def runFrame (payload : Bytes) : Frame → Device W R D → BusFormat × Device W R D
  | .empty, d => (.basic, d)
  | .unknown code, d => (.raw, d.fail .raw (.unsupported code))
  | .opened op, d => (.raw, tryOpcode op payload d)
  | .data op data, d => (.raw, offerData op data d)
  | .line l, d =>
    match l.command with
    | some command => (.basic, finish .basic (lineRun command l) d)
    | none => (.basic, d)

/-- Ends the handling of a frame: the reply in its wire format, and the device with no data left
waiting. -/
def settle (format : BusFormat) (d : Device W R D) : Reply × Device W R D :=
  let status := { d.status with connected := d.radio.connected }
  let (data, response) := d.response.take format
  (⟨format, data, status⟩, { d with status, response })

/-- Handles one frame. -/
def receive (payload : Bytes) (d : Device W R D) : Reply × Device W R D :=
  let (frame, pending) := d.pending.decode payload
  let (format, d) := runFrame payload frame { d with response := {}, pending }
  d.settle format

end StorageAdapter.Device
