import StorageAdapter.Machine.Network
import StorageAdapter.Settings

/-! # Board

What the adapter asks of the machine it runs on, kept as a journal in the order of the requests. -/

namespace StorageAdapter

/-- A request to the machine. -/
inductive Event where
  /-- Credentials were tried. -/
  | tested (credentials : Credentials)
  /-- WiFi was restarted with its settings. -/
  | restarted (wifi : WifiSettings)
  /-- The adapter paused for a number of milliseconds. -/
  | waited (milliseconds : Nat)
  /-- The adapter was asked to start anew. -/
  | rebooted
deriving DecidableEq, Repr

/-- The machine that the adapter runs on. -/
structure Board where
  version : String
  /-- The requests so far, the first one first. -/
  journal : List Event := []
deriving DecidableEq, Repr

namespace Board

/-- Writes a request into the journal. -/
def note (b : Board) (e : Event) : Board := { b with journal := b.journal ++ [e] }

/-- The number of times that the adapter was asked to start anew. -/
def reboots (b : Board) : Nat := b.journal.count .rebooted

/-- The pauses in milliseconds. -/
def pauses (b : Board) : List Nat :=
  b.journal.filterMap fun
    | .waited ms => some ms
    | _ => none

/-- The settings of each restart of WiFi. -/
def restarts (b : Board) : List WifiSettings :=
  b.journal.filterMap fun
    | .restarted wifi => some wifi
    | _ => none

/-- Whether the adapter is to start anew; the request is taken off the journal. -/
def collectReboot (b : Board) : Bool × Board :=
  (b.reboots != 0, { b with journal := b.journal.filter (· != .rebooted) })

end Board

end StorageAdapter
