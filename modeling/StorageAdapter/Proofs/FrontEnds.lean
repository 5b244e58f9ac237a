import StorageAdapter.Proofs.Framing
import StorageAdapter.Proofs.Line

/-! # Two front ends

A caller sends an opcode and then its data, or a command line. Either way the command runs on the
device as it is, whatever the notes say (`receive_opcodeWithData`, `receive_command`); so the same
action ends in the same way for both (`sameOutcome_silent`), and what is answered does not depend on
the status before (`SameButStatus.answer_opcodeWithData`, `SameButStatus.answer_line`). -/

namespace StorageAdapter

open StorageAdapter.Action StorageAdapter.Device

variable {W R D : Type}

/-! ### Written lines -/

theorem wellFormed_write {keyword : String} (hk : 1 < (Text.encode keyword).length)
    (args : List Bytes) : (ClientCommand.line (Line.write keyword args)).WellFormed := by
  have hlength : 2 < (Line.write keyword args).length := by
    unfold Line.write
    rw [List.length_append, List.length_cons]
    omega
  refine ⟨fun h => ?_, fun code h => ?_⟩
  · rw [h] at hlength
    exact absurd hlength (by decide)
  · rw [h] at hlength
    exact absurd hlength (Nat.lt_irrefl 2)

theorem parameter_of_params {l : Line} {params : List String} (h : l.params = params) {i : Nat}
    {s : String} (hi : params[i]? = some s) : parameter l i = .ok s := by
  unfold parameter Line.param
  rw [h, hi]

section Written

variable {l : Line} {i : Nat} {token : Bytes} {b : UInt8}
  (hb : (Line.Parameter.decimal b.toNat).Written token)
  (h : parameter l i = .ok (Text.decodeLossy token))
include hb h

theorem slotParameter_of_written : slotParameter l i = .ok b := by
  unfold slotParameter
  rw [h, ok_bind, hb.byteArgument]

theorem modeParameter_of_written : modeParameter l i = .ok (AccessMode.ofByte b) := by
  unfold modeParameter
  rw [h, ok_bind, hb.byteArgument]
  rfl

end Written

/-! ### Replies -/

/-- The reply to a command that leaves the device with this status, and the device, with nothing
pending and nothing waiting. -/
def Device.answered (format : BusFormat) (data : Bytes) (status : Status) (d : Device W R D) :
    Reply × Device W R D :=
  let status := { status with connected := d.radio.connected }
  (⟨format, data, status⟩, d.withNotes .idle {} status)

/-- What becomes of an action for callers of opcodes. -/
def Device.opcodeOutcome (act : Action (Device W R D) Bytes) (d : Device W R D) :
    Reply × Device W R D :=
  match act d with
  | .ok bytes e => e.answered .raw bytes (d.status.succeed "")
  | .error err e => e.answered .raw [] (d.status.fail err)

/-- What becomes of an action for callers of lines. -/
def Device.lineOutcome (act : Action (Device W R D) Answer) (d : Device W R D) :
    Reply × Device W R D :=
  match act d with
  | .ok answer e => e.answered .basic answer.data (d.status.succeed answer.message)
  | .error err e => e.answered .basic (Text.encode err.message) (d.status.fail err)

/-! ### The same outcome -/

/-- The replies tell of the same success or the same failure, and the devices are the same but for
the status, of which the message after a success is a matter of the front end. -/
structure SameOutcome (x y : Reply × Device W R D) : Prop where
  code : x.1.status.code = y.1.status.code
  message : x.1.status.code ≠ Error.successCode → x.1.status.message = y.1.status.message
  device : SameButStatus x.2 y.2

/-- **An action that answers nothing** has the same outcome for both front ends. -/
theorem sameOutcome_silent (act : Action (Device W R D) Unit) (answer : Answer)
    (d : Device W R D) :
    SameOutcome (d.opcodeOutcome (silently act)) (d.lineOutcome (do act; return answer)) := by
  unfold opcodeOutcome lineOutcome silently
  rw [bind_apply, bind_apply]
  rcases act d with ⟨u, e⟩ | ⟨err, e⟩
  · exact ⟨rfl, fun h => absurd rfl h, _, rfl⟩
  · exact ⟨rfl, fun _ => rfl, _, rfl⟩

/-- **An action that answers bytes** answers both front ends the same ones. -/
theorem sameOutcome_bytes (act : Action (Device W R D) Bytes) (message : String)
    (d : Device W R D) :
    let x := d.opcodeOutcome act
    let y := d.lineOutcome (do return { data := ← act, message })
    SameOutcome x y ∧ (x.1.status.code = Error.successCode → x.1.data = y.1.data) := by
  unfold opcodeOutcome lineOutcome
  rw [bind_apply]
  rcases act d with ⟨bytes, e⟩ | ⟨err, e⟩
  · exact ⟨⟨rfl, fun h => absurd rfl h, _, rfl⟩, fun _ => rfl⟩
  · exact ⟨⟨rfl, fun _ => rfl, _, rfl⟩, fun h => absurd h err.code_ne_successCode⟩

/-! ### Commands -/

variable [HostStorage W R] [SettingsStore W] [KeyStorage W] [DriveBay D]

/-- **What comes of an opcode and its data.** -/
theorem receive_opcodeWithData {op : Opcode} (hop : op.needsNoData = false) {data : Bytes}
    (hdata : data ≠ []) {act : Action (Device W R D) Bytes}
    (hact : answerOpcodeWithData op data = some act) {d : Device W R D} (hd : d.pending = .idle) :
    receive data (receive (ClientCommand.openFrame op) d).2 = d.opcodeOutcome act := by
  have hstatus : op ≠ .status := by
    rintro rfl
    cases hop
  -- the frame that opens the opcode leaves the device as it was but for the notes
  have hwaiting : { (({ d with response := {}, pending := .waiting op } :
        Device W R D).settle .raw).2 with response := {} } =
      withNotes (.waiting op) {} { d.status with connected := d.radio.connected } d := rfl
  rw [receive_openFrame hop hd, receive_data hdata hact rfl, hwaiting,
    noteOpcode_withNotes (answerOpcodeWithData_withNotes hact), if_neg hstatus]
  unfold opcodeOutcome
  rcases act d with ⟨bytes, e⟩ | ⟨err, e⟩ <;> rfl

/-- **What comes of an opcode that needs no data.** -/
theorem receive_opcode {op : Opcode} {act : Action (Device W R D) Bytes}
    (hact : answerOpcode op (ClientCommand.openFrame op) = some act) (hop : op ≠ .status)
    {d : Device W R D} (hcommutes : Commutes (withNotes (.opened op) {} d.status) act)
    (hd : d.pending = .idle) :
    receive (ClientCommand.openFrame op) d = d.opcodeOutcome act := by
  have hdecode : d.pending.decode (ClientCommand.openFrame op) = (.opened op, .opened op) := by
    rw [hd, decode_openFrame]
  have hopened : { d with response := {}, pending := .opened op } =
      withNotes (.opened op) {} d.status d := rfl
  rw [receive_answered hdecode]
  simp only [answerFrame, hact]
  rw [hopened, noteOpcode_withNotes hcommutes, if_neg hop]
  unfold opcodeOutcome
  rcases act d with ⟨bytes, e⟩ | ⟨err, e⟩ <;> rfl

/-- **What comes of a command line.** -/
theorem receive_command {payload : Bytes} (hp : (ClientCommand.line payload).WellFormed)
    {command : Command} (hc : (Line.parse payload).command = some command)
    (hs : command ≠ .status) {d : Device W R D} (hd : d.pending = .idle) :
    receive payload d = d.lineOutcome (answerLine command (.parse payload)) := by
  have hidle : { d with response := {} } = withNotes .idle {} d.status d := by
    rw [← hd]
    rfl
  rw [receive_line hp.1 hp.2 hc hd, hidle, noteLine_withNotes (answerLine_withNotes hs _)]
  unfold lineOutcome
  rcases answerLine command (.parse payload) d with ⟨answer, e⟩ | ⟨err, e⟩ <;> rfl

/-! ### Reading the key -/

/-- Reads the key that is open. -/
def Device.readKey : Action (Device W R D) Bytes := do return ← KeySession.read (← get).keySession

theorem receive_readKey_opcode {d : Device W R D} (hd : d.pending = .idle) :
    receive (ClientCommand.openFrame .readAppKey) d = d.opcodeOutcome Device.readKey :=
  receive_opcode rfl (by decide) (commutes_get_bind (fun _ => rfl) fun _ => .lift _) hd

theorem receive_readKey_line {payload : Bytes} (hp : (ClientCommand.line payload).WellFormed)
    (hc : (Line.parse payload).command = some .readAppKey) {d : Device W R D}
    (hd : d.pending = .idle) : receive payload d =
      d.lineOutcome (do return { data := ← Device.readKey, message := "ok" }) := by
  have hline : (answerLine .readAppKey (Line.parse payload) : Action (Device W R D) Answer) = (do
      return { data := ← Device.readKey, message := "ok" }) := by
    funext e
    show ((liftM (KeySession.read e.keySession) : Action (Device W R D) Bytes) >>= fun data =>
      pure ({ data } : Answer)) e = _
    have hread : Device.readKey e =
        (liftM (KeySession.read e.keySession) : Action (Device W R D) Bytes) e := rfl
    rw [bind_apply, bind_apply, hread]
  rw [receive_command hp hc (by decide) hd, hline]

/-! ### The same request -/

namespace ClientCommand

/-- The reply to the last frame of a command, and the device after it. -/
def sent (c : ClientCommand) (d : Device W R D) : Reply × Device W R D :=
  match c with
  | opcode op => receive (openFrame op) d
  | opcodeWithData op data => receive data (receive (openFrame op) d).2
  | line payload => receive payload d

/-- What a command asks for. -/
def request (c : ClientCommand) (d : Device W R D) : Request :=
  match c with
  | opcode op => op.request (openFrame op)
  | opcodeWithData op data => op.request data
  | line payload =>
    match (Line.parse payload).command with
    | some command => command.request (.parse payload) d
    | none => .ok none

/-- The last frame of a command asks for what the command does, on a device that differs in notes
alone, and leaves nothing pending. -/
theorem sent_eq_receive {c : ClientCommand} (hc : c.WellFormed) {d : Device W R D}
    (hd : d.pending = .idle) : ∃ payload p q s, c.sent d = receive payload (withNotes p q s d) ∧
      asked payload (withNotes p q s d) = c.request d ∧ p.next payload = .idle := by
  have hsame : withNotes .idle d.response d.status d = d := by
    rw [← hd]
    rfl
  cases c with
  | opcode op =>
    have hop : op.needsNoData = true := hc
    refine ⟨openFrame op, .idle, d.response, d.status, ?_, ?_, ?_⟩
    · rw [hsame]
      rfl
    · rw [hsame]
      unfold asked
      rw [hd, decode_openFrame]
      exact if_pos hop
    · unfold Pending.next
      rw [decode_openFrame]
      simp [Pending.tried, hop]
  | opcodeWithData op data =>
    obtain ⟨hop, hdata⟩ := hc
    -- the data meets the device as the frame that opened the opcode has left it
    refine ⟨data, .waiting op, {}, { d.status with connected := d.radio.connected }, ?_, ?_, ?_⟩
    · show receive data (receive (openFrame op) d).2 = _
      rw [receive_openFrame hop hd]
      rfl
    · have hdecode : (Pending.waiting op).decode data = (.data op data, .waiting op) :=
        decode_data hdata op
      unfold asked
      rw [show (withNotes (.waiting op) {} { d.status with connected := d.radio.connected }
        d).pending = .waiting op from rfl, hdecode]
      simp [hop, request]
    · exact next_waiting hop hdata
  | line payload =>
    obtain ⟨hp, hl⟩ := hc
    refine ⟨payload, .idle, d.response, d.status, ?_, ?_, next_line hp hl⟩
    · rw [hsame]
      rfl
    · rw [hsame]
      unfold asked
      rw [hd, decode_line hp hl]
      rfl

end ClientCommand

/-- **Commands that ask for the same have the same outcome**, unless they only tell something. -/
theorem sameOutcome_of_request {c c' : ClientCommand} (hc : c.WellFormed) (hc' : c'.WellFormed)
    {d : Device W R D} (hd : d.pending = .idle)
    (hserve : ((c.request d).serve : Action (Device W R D) Unit) = (c'.request d).serve)
    (hr : (c.request d).tells = false) (hr' : (c'.request d).tells = false) :
    SameOutcome (c.sent d) (c'.sent d) := by
  obtain ⟨x, p, q, s, hsent, hasked, hnext⟩ := ClientCommand.sent_eq_receive hc hd
  obtain ⟨x', p', q', s', hsent', hasked', hnext'⟩ := ClientCommand.sent_eq_receive hc' hd
  rw [hsent, hsent']
  have hne : ∀ {r : Request}, r.tells = false → r ≠ .ok none := by
    rintro r hr rfl
    cases hr
  have hends := (concluded_of_asked hasked (hne hr)).of_withNotes
  have hends' := (concluded_of_asked hasked' (hne hr')).of_withNotes
  obtain ⟨hcode, hmessage⟩ := hends.same (congrFun hserve d) hr hr' hends'
  obtain ⟨t, hleft⟩ := receive_eq x (withNotes p q s d)
  obtain ⟨t', hleft'⟩ := receive_eq x' (withNotes p' q' s' d)
  refine ⟨hcode, hmessage, t', ?_⟩
  rw [hleft, hleft', hasked, hasked', (serve_withNotes _).after_eq, (serve_withNotes _).after_eq,
    hserve]
  show withNotes (p'.next x') {} t' _ = { withNotes (p.next x) {} t _ with status := t' }
  rw [hnext, hnext']
  rfl

/-! ### The status before -/

/-- The replies tell the same. -/
structure SameAnswer (x y : Reply) : Prop where
  data : x.data = y.data
  code : x.status.code = y.status.code
  message : x.status.message = y.status.message

section Before

variable {d e : Device W R D} (h : SameButStatus d e) (hd : d.pending = .idle)
include h hd

/-- What an opcode with data answers does not depend on the status before. -/
theorem SameButStatus.answer_opcodeWithData {op : Opcode} (hop : op.needsNoData = false)
    {data : Bytes} (hdata : data ≠ []) :
    SameAnswer (receive data (receive (ClientCommand.openFrame op) d).2).1
      (receive data (receive (ClientCommand.openFrame op) e).2).1 := by
  have hsome := isSome_answerOpcodeWithData (W := W) (R := R) (D := D) op data
  rw [hop] at hsome
  obtain ⟨act, hact⟩ := Option.isSome_iff_exists.1 hsome
  obtain ⟨status, he⟩ := h
  obtain rfl : e = withNotes d.pending d.response status d := he
  have hidle : (withNotes d.pending d.response status d).pending = .idle := hd
  rw [receive_opcodeWithData hop hdata hact hd, receive_opcodeWithData hop hdata hact hidle,
    opcodeOutcome, opcodeOutcome, answerOpcodeWithData_withNotes hact d]
  rcases act d with ⟨bytes, e⟩ | ⟨err, e⟩ <;> exact ⟨rfl, rfl, rfl⟩

/-- What a command line answers does not depend on the status before, unless it asks for that. -/
theorem SameButStatus.answer_line {payload : Bytes} (hp : (ClientCommand.line payload).WellFormed)
    {command : Command} (hc : (Line.parse payload).command = some command)
    (hs : command ≠ .status) : SameAnswer (receive payload d).1 (receive payload e).1 := by
  obtain ⟨status, he⟩ := h
  obtain rfl : e = withNotes d.pending d.response status d := he
  have hidle : (withNotes d.pending d.response status d).pending = .idle := hd
  rw [receive_command hp hc hs hd, receive_command hp hc hs hidle,
    lineOutcome, lineOutcome, answerLine_withNotes hs (Line.parse payload) d]
  rcases answerLine command (Line.parse payload) d with ⟨answer, e⟩ | ⟨err, e⟩ <;>
    exact ⟨rfl, rfl, rfl⟩

end Before

end StorageAdapter
