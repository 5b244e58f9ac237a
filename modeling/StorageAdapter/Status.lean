import StorageAdapter.Error
import StorageAdapter.Text.Utf8

/-! # Status, response and reply

A command leaves a status for the status channel and data for its caller. The data waits in one of
two buffers, one for callers that send opcodes and one for callers that send lines; a reply takes
the buffer of its own wire format. -/

namespace StorageAdapter

/-- The wire format of a frame and of its reply. -/
inductive BusFormat where
  /-- Opcode frames and the data frames behind them. -/
  | raw
  /-- Keyword lines. -/
  | basic
deriving DecidableEq, Repr

/-! ## Status -/

/-- The channel that the adapter answers on. -/
def answerChannel : UInt8 := 15

/-- How the last command ended. -/
structure Status where
  /-- Zero for success, otherwise the code of the error. -/
  code : UInt8 := Error.successCode
  /-- Whether the network was joined at the time. -/
  connected : Bool := false
  channel : UInt8 := answerChannel
  message : String := ""
deriving DecidableEq, Repr

namespace Status

/-- A flag as a number. -/
def flag (b : Bool) : UInt8 := if b then 1 else 0

/-- Whether the last command succeeded. -/
def succeeded (s : Status) : Bool := s.code == Error.successCode

/-- The status for opcode callers: code, connected, channel and the message. -/
def toBytes (s : Status) : Bytes :=
  [s.code, flag s.connected, s.channel] ++ Text.encode s.message

/-- The status for line callers. -/
def toLine (s : Status) : String :=
  "err=" ++ toString s.code.toNat ++ ",conn=" ++ toString (flag s.connected).toNat ++
    ",chan=" ++ toString s.channel.toNat ++ ",msg=" ++ s.message

/-- The status after a success with a message. -/
def succeed (s : Status) (message : String) : Status :=
  { s with code := Error.successCode, message := message }

/-- The status after an error. -/
def fail (s : Status) (e : Error) : Status :=
  { s with code := e.code, message := e.message }

end Status

/-! ## Response -/

/-- The data waiting for the caller, for each wire format. -/
structure Response where
  text : Bytes := []
  binary : Bytes := []
deriving DecidableEq, Repr

namespace Response

/-- Puts data into the buffer of a wire format. -/
def put (r : Response) (format : BusFormat) (data : Bytes) : Response :=
  match format with
  | .raw => { r with binary := data }
  | .basic => { r with text := data }

/-- The data in the buffer of a wire format. -/
def get (r : Response) : BusFormat → Bytes
  | .raw => r.binary
  | .basic => r.text

/-- Takes the data of a wire format and drops that of the other one. -/
def take (r : Response) (format : BusFormat) : Bytes × Response := (r.get format, {})

end Response

/-- What goes back over the bus for one frame. -/
structure Reply where
  format : BusFormat
  data : Bytes
  status : Status
deriving DecidableEq, Repr

end StorageAdapter
