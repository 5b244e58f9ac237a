import StorageAdapter.Proofs.FrontEnds

/-! # What a reply tells

A frame runs a command or it runs none (`Frame.run`). A command writes into the buffers and notes a
success while it runs, so its verdict is read off the device that it leaves (`Device.verdict`). It
leaves what its answer says and, with an error, nothing in either buffer (`endsIn_ended`). What
waits for the caller behind the frame is then what the verdict leaves, in the buffer of the frame's
own wire format, and the status is noted from it (`response_handled`, `status_handled`); so every
reply says all there is to say, whatever the state of the device (`replies_well_formed`). -/

namespace StorageAdapter

open StorageAdapter.Action StorageAdapter.Device

/-! ### Verdicts -/

/-- How a command ended, if there was one: with what it left for its caller and as the message, or
with an error. -/
abbrev Verdict := Option (Except Error Answer)

namespace Verdict

/-- What the caller reads. Opcode callers are not told of errors here. -/
def data (format : BusFormat) : Verdict → Bytes
  | none => []
  | some (.ok answer) => answer.data
  | some (.error e) =>
    match format with
    | .raw => []
    | .basic => Text.encode e.message

@[simp] theorem data_ok (format : BusFormat) (answer : Answer) :
    data format (some (.ok answer)) = answer.data := rfl

/-- The status that is left. -/
def status (before : Status) : Verdict → Status
  | none => before
  | some (.ok answer) => before.succeed answer.message
  | some (.error e) => before.fail e

end Verdict

/-- The wire format that a frame is answered in. -/
def Frame.format : Frame → BusFormat
  | .empty | .line _ => .basic
  | .opened _ | .unknown _ | .data _ _ => .raw

variable {W R D : Type} [HostStorage W R] [SettingsStore W] [KeyStorage W] [DriveBay D]

/-- **What a frame runs.** A frame that is empty, a keyword that nobody knows and an opcode that
waits for its data run nothing; an unknown opcode is refused. -/
def Frame.run (payload : Bytes) : Frame → Option (Action (Device W R D) Unit)
  | .empty => none
  | .unknown code => some (throw (.unsupported code))
  | .opened op => (runOpcode op payload).map (opcodeRun op)
  | .data op bytes => (runOpcodeWithData op bytes).map dataRun
  | .line l => l.command.map fun command => lineRun command l

/-- How that ends on the device and what it leaves of it, before an error is noted. -/
def Device.ended (payload : Bytes) (d : Device W R D) :
    Option (EStateM.Result Error (Device W R D) Unit) :=
  ((d.pending.decode payload).1.run payload).map fun run =>
    run { d with response := {}, pending := (d.pending.decode payload).2 }

/-- **How the command ends that a frame runs on the device**: with what waits for callers of the
frame's wire format and the message of the status, or with an error. -/
def Device.verdict (payload : Bytes) (d : Device W R D) : Verdict :=
  (d.ended payload).map fun
    | .ok _ e => .ok
      { data := e.response.get (d.pending.decode payload).1.format
        message := e.status.message }
    | .error err _ => .error err

/-- The wire format of the reply, and the device before the reply takes what waits for it. -/
def Device.handled (payload : Bytes) (d : Device W R D) : BusFormat × Device W R D :=
  runFrame payload (d.pending.decode payload).1
    { d with response := {}, pending := (d.pending.decode payload).2 }

/-- A frame is handled as the answer to its command says. -/
theorem handled_eq_answerFrame (payload : Bytes) (d : Device W R D) :
    d.handled payload = answerFrame payload (d.pending.decode payload).1
      { d with response := {}, pending := (d.pending.decode payload).2 } :=
  runFrame_eq_answerFrame payload _ rfl

theorem receive_eq_settle (payload : Bytes) (d : Device W R D) :
    receive payload d = (d.handled payload).2.settle (d.handled payload).1 := rfl

/-! ### The wire format -/

theorem format_handled (payload : Bytes) (d : Device W R D) :
    (d.handled payload).1 = (d.pending.decode payload).1.format := by
  unfold Device.handled
  rcases (d.pending.decode payload).1 with _ | op | code | l | ⟨op, data⟩
  · rfl
  · rfl
  · rfl
  · simp only [runFrame]
    rcases l.command with _ | command <;> rfl
  · rfl

/-- A frame begins an opcode only if it is the opcode's own and none is pending. -/
theorem decode_eq_opened_iff {p : Pending} {payload : Bytes} {op : Opcode} :
    (p.decode payload).1 = .opened op ↔ p = .idle ∧ payload = ClientCommand.openFrame op := by
  constructor
  · intro h
    by_cases hp : payload = []
    · subst hp
      cases h
    by_cases hn : p = .idle
    · subst hn
      obtain ⟨-, hd⟩ | ⟨code, -, -, hd⟩ | ⟨op', hop, hd⟩ := decode_idle_cases hp <;> rw [hd] at h
      · cases h
      · cases h
      · exact ⟨rfl, Frame.opened.inj h ▸ hop⟩
    · obtain ⟨op', hd⟩ := exists_decode_data hn hp
      rw [hd] at h
      cases h
  · rintro ⟨rfl, rfl⟩
    rw [decode_openFrame]

/-- A frame is a line only if no opcode is pending. -/
theorem decode_eq_line {p : Pending} {payload : Bytes} {l : Line}
    (h : (p.decode payload).1 = .line l) : p = .idle ∧ l = .parse payload := by
  by_cases hp : payload = []
  · subst hp
    cases h
  by_cases hn : p = .idle
  · subst hn
    obtain ⟨-, hd⟩ | ⟨code, -, -, hd⟩ | ⟨op, -, hd⟩ := decode_idle_cases hp <;> rw [hd] at h
    · exact ⟨rfl, (Frame.line.inj h).symm⟩
    · cases h
    · cases h
  · obtain ⟨op, hd⟩ := exists_decode_data hn hp
    rw [hd] at h
    cases h

/-- A frame is answered as an opcode if it looks like one or is the data of one. -/
theorem format_decode_eq_raw_iff (p : Pending) (payload : Bytes) :
    (p.decode payload).1.format = .raw ↔
      payload ≠ [] ∧ (p ≠ .idle ∨ ∃ code, payload = [Opcode.marker, code]) := by
  by_cases hp : payload = []
  · subst hp
    exact ⟨nofun, fun h => absurd rfl h.1⟩
  by_cases hn : p = .idle
  · subst hn
    obtain ⟨hl, hd⟩ | ⟨code, -, hcode, hd⟩ | ⟨op, hop, hd⟩ := decode_idle_cases hp <;> rw [hd]
    · exact ⟨nofun, fun ⟨_, h⟩ => h.elim (absurd rfl) fun ⟨code, hc⟩ => absurd hc (hl code)⟩
    · exact ⟨fun _ => ⟨hp, .inr ⟨code, hcode⟩⟩, fun _ => rfl⟩
    · exact ⟨fun _ => ⟨hp, .inr ⟨op.code, hop⟩⟩, fun _ => rfl⟩
  · obtain ⟨op, hd⟩ := exists_decode_data hn hp
    rw [hd]
    exact ⟨fun _ => ⟨hp, .inl hn⟩, fun _ => rfl⟩

/-! ### What commands leave -/

/-- How an opcode ends by its answer. One that succeeds leaves an empty message, but for the one
that reads the status. -/
def Device.opcodeVerdict (op : Opcode) (act : Action (Device W R D) Bytes) (d : Device W R D) :
    Except Error Answer :=
  (act.outcome d).map fun data => { data, message := if op = .status then d.status.message else "" }

/-- How the command of a frame ends by its answer. -/
def Device.answerVerdict (payload : Bytes) (d : Device W R D) : Frame → Verdict
  | .empty => none
  | .unknown code => some (.error (.unsupported code))
  | .opened op => (answerOpcode op payload).map (opcodeVerdict op · d)
  | .data op data => (answerOpcodeWithData op data).map (opcodeVerdict op · d)
  | .line l => l.command.map fun command => (answerLine command l).outcome d

/-- **A run ends with a verdict**: what it leaves of the device is the answer in the buffer of the
wire format, with its message as the status, or nothing in either buffer. The opcode that reads the
status keeps it. -/
inductive Device.EndsIn (frame : Frame) (before : Status) :
    Except Error Answer → EStateM.Result Error (Device W R D) Unit → Prop
  | ok {answer : Answer} {e : Device W R D}
      (response : e.response = ({} : Response).put frame.format answer.data)
      (message : e.status.message = answer.message)
      (status : e.status = if frame = .opened .status then before
        else before.succeed answer.message) : EndsIn frame before (.ok answer) (.ok () e)
  | error {err : Error} {e : Device W R D} (frame_ne : frame ≠ .opened .status)
      (response : e.response = {}) (status : e.status.fail err = before.fail err) :
    EndsIn frame before (.error err) (.error err e)

omit [HostStorage W R] [SettingsStore W] [KeyStorage W] [DriveBay D] in
/-- A run that leaves what an opcode answers, with a success noted, ends with the verdict of the
answer. -/
theorem endsIn_raw {op : Opcode} (hop : op ≠ .status) {frame : Frame} (hraw : frame.format = .raw)
    (hframe : frame ≠ .opened .status) {answer : Action (Device W R D) Bytes} {p : Pending}
    {d : Device W R D} {r : EStateM.Result Error (Device W R D) Unit}
    (hr : r = match answer d with
      | .ok bytes e => .ok () (e.withNotes p (({} : Response).put .raw bytes) (d.status.succeed ""))
      | .error err e => .error err (e.withNotes p {} (d.status.succeed ""))) :
    EndsIn frame d.status (opcodeVerdict op answer d) r := by
  rw [hr]
  unfold opcodeVerdict outcome
  rw [if_neg hop]
  rcases answer d with ⟨bytes, e⟩ | ⟨err, e⟩
  · refine .ok ?_ rfl (if_neg hframe).symm
    rw [hraw]
    rfl
  · exact .error hframe rfl rfl

theorem endsIn_opened (op : Opcode) (frame : Bytes) (p : Pending) (d : Device W R D) :
    Option.Rel (EndsIn (.opened op) d.status) ((answerOpcode op frame).map (opcodeVerdict op · d))
      (((runOpcode op frame).map (opcodeRun op)).map (· (withNotes p {} d.status d))) := by
  obtain ⟨hact, hanswer⟩ | ⟨act, answer, hact, hanswer, -⟩ :=
    rel_cases (leavesBinary_runOpcode (W := W) (R := R) (D := D) op frame)
  · rw [hact, hanswer]
    exact .none
  rw [hact, hanswer]
  refine .some ?_
  have hrun := opcodeRun_withNotes hact hanswer p d
  by_cases hop : op = .status
  · subst hop
    cases hact
    cases hanswer
    exact .ok rfl rfl rfl
  · rw [if_neg hop] at hrun
    exact endsIn_raw hop rfl (fun h => hop (Frame.opened.inj h)) hrun

theorem endsIn_data (op : Opcode) (data : Bytes) (p : Pending) (d : Device W R D) :
    Option.Rel (EndsIn (.data op data) d.status)
      ((answerOpcodeWithData op data).map (opcodeVerdict op · d))
      (((runOpcodeWithData op data).map dataRun).map (· (withNotes p {} d.status d))) := by
  obtain ⟨hact, hanswer⟩ | ⟨act, answer, hact, hanswer, -⟩ :=
    rel_cases (leavesBinary_runOpcodeWithData (W := W) (R := R) (D := D) op data)
  · rw [hact, hanswer]
    exact .none
  have hop : op ≠ .status := by
    rintro rfl
    cases hact
  rw [hact, hanswer]
  have hframe : Frame.data op data ≠ .opened .status := nofun
  exact .some (endsIn_raw hop rfl hframe (dataRun_withNotes hact hanswer p d))

theorem endsIn_line (l : Line) (p : Pending) (d : Device W R D) :
    Option.Rel (EndsIn (.line l) d.status)
      (l.command.map fun command => (answerLine command l).outcome d)
      ((l.command.map fun command => lineRun command l).map (· (withNotes p {} d.status d))) := by
  rcases l.command with _ | command
  · exact .none
  · refine .some ?_
    show EndsIn _ _ ((answerLine command l).outcome d)
      (lineRun command l (withNotes p {} d.status d))
    rw [lineRun_withNotes command l p d]
    unfold outcome
    rcases answerLine command l d with ⟨answer, e⟩ | ⟨err, e⟩
    · exact .ok rfl rfl rfl
    · exact .error nofun rfl rfl

/-- **Every command ends with the verdict of its answer.** -/
theorem endsIn_ended (payload : Bytes) (d : Device W R D) :
    Option.Rel (EndsIn (d.pending.decode payload).1 d.status)
      (d.answerVerdict payload (d.pending.decode payload).1) (d.ended payload) := by
  unfold ended
  rcases d.pending.decode payload with ⟨frame, p⟩
  cases frame with
  | empty => exact .none
  | unknown code => exact .some (.error (e := withNotes p {} d.status d) nofun rfl rfl)
  | opened op => exact endsIn_opened op payload p d
  | data op data => exact endsIn_data op data p d
  | line l => exact endsIn_line l p d

theorem Response.get_put_self (r : Response) (format : BusFormat) (data : Bytes) :
    (r.put format data).get format = data := by
  cases format <;> rfl

theorem Response.get_put_of_ne (r : Response) {format other : BusFormat} (h : other ≠ format)
    (data : Bytes) : (r.put format data).get other = r.get other := by
  cases format <;> cases other <;> first | rfl | exact absurd rfl h

/-- **The verdict is that of the answer.** -/
theorem verdict_eq (payload : Bytes) (d : Device W R D) :
    d.verdict payload = d.answerVerdict payload (d.pending.decode payload).1 := by
  have h := endsIn_ended payload d
  unfold verdict
  generalize d.ended payload = r, d.answerVerdict payload (d.pending.decode payload).1 = v at h ⊢
  cases h with
  | none => rfl
  | some h =>
    cases h with
    | ok response message status =>
      simp only [Option.map_some]
      rw [response, message, Response.get_put_self]
    | error response status => rfl

/-- **A command that fails has left nothing**, and its error is the verdict. -/
theorem ended_error {payload : Bytes} {d e : Device W R D} {err : Error}
    (he : d.ended payload = some (.error err e)) :
    d.verdict payload = some (.error err) ∧ (d.pending.decode payload).1 ≠ .opened .status ∧
      e.response = {} := by
  have hverdict : d.verdict payload = some (.error err) := by
    unfold verdict
    rw [he]
    rfl
  have hends := endsIn_ended payload d
  rw [he, ← verdict_eq, hverdict] at hends
  obtain ⟨hends⟩ := hends
  cases hends with
  | error hframe hresponse _ => exact ⟨hverdict, hframe, hresponse⟩

/-- **A command that succeeds has left the verdict** in the buffer of its frame's wire format, and
nothing in the other one. -/
theorem ended_ok {payload : Bytes} {d e : Device W R D} (he : d.ended payload = some (.ok () e)) :
    ∃ data, d.verdict payload = some (.ok { data, message := e.status.message }) ∧
      e.response = ({} : Response).put (d.pending.decode payload).1.format data := by
  have hverdict : d.verdict payload = some (.ok
      { data := e.response.get (d.pending.decode payload).1.format
        message := e.status.message }) := by
    unfold verdict
    rw [he]
    rfl
  have hends := endsIn_ended payload d
  rw [he, ← verdict_eq, hverdict] at hends
  obtain ⟨hends⟩ := hends
  cases hends with
  | ok hresponse _ _ => exact ⟨_, hverdict, hresponse⟩

omit [HostStorage W R] [SettingsStore W] [KeyStorage W] [DriveBay D] in
theorem opcodeVerdict_withNotes {p : Pending} {q : Response} {s : Status} {op : Opcode}
    (hop : op ≠ .status) {act : Action (Device W R D) Bytes} (hc : Commutes (withNotes p q s) act)
    (d : Device W R D) : opcodeVerdict op act (withNotes p q s d) = opcodeVerdict op act d := by
  unfold opcodeVerdict
  rw [hc.outcome_eq, if_neg hop, if_neg hop]

/-- The status before has no part in how a command ends, unless that reads the status. -/
theorem verdict_withStatus {payload : Bytes} {d : Device W R D}
    (hop : (d.pending.decode payload).1 ≠ .opened .status)
    (hline : ∀ l, (d.pending.decode payload).1 = .line l → l.command ≠ some .status)
    (status : Status) : ({ d with status } : Device W R D).verdict payload = d.verdict payload := by
  rw [verdict_eq, verdict_eq]
  show answerVerdict payload (withNotes d.pending d.response status d) _ = _
  generalize (d.pending.decode payload).1 = frame at hop hline ⊢
  cases frame with
  | empty => rfl
  | unknown code => rfl
  | opened op =>
    have hop : op ≠ .status := fun h => hop (congrArg Frame.opened h)
    exact Option.map_congr fun act hact =>
      opcodeVerdict_withNotes hop (answerOpcode_withNotes hop hact) d
  | data op data =>
    refine Option.map_congr fun act hact =>
      opcodeVerdict_withNotes ?_ (answerOpcodeWithData_withNotes hact) d
    rintro rfl
    cases hact
  | line l =>
    refine Option.map_congr fun command hc => ?_
    have hcommand : command ≠ .status := fun h => hline l rfl (hc.trans (congrArg some h))
    exact (answerLine_withNotes hcommand l).outcome_eq d

/-! ### What is left for the reply -/

/-- The device when its command has ended: the error, if there is one, is noted. -/
def Device.concluded (format : BusFormat) (d : Device W R D) :
    Option (EStateM.Result Error (Device W R D) Unit) → Device W R D
  | none => d
  | some (.ok _ e) => e
  | some (.error err e) => e.fail format err

omit [HostStorage W R] [SettingsStore W] [KeyStorage W] [DriveBay D] in
theorem status_fail (format : BusFormat) (e : Error) (d : Device W R D) :
    (d.fail format e).status = d.status.fail e := by
  cases format <;> rfl

/-- **A frame is handled by what it runs**: it notes how that ended and what is pending then. -/
theorem handled_snd (payload : Bytes) (d : Device W R D) :
    ∃ pending, (d.handled payload).2 =
      { concluded (d.pending.decode payload).1.format { d with response := {} }
        (d.ended payload) with pending } := by
  unfold handled ended
  rcases d.pending.decode payload with ⟨frame, p⟩
  cases frame with
  | empty => exact ⟨_, rfl⟩
  | unknown code => exact ⟨_, rfl⟩
  | opened op =>
    simp only [runFrame, tryOpcode, Frame.run]
    rcases runOpcode op payload with _ | act
    · exact ⟨_, rfl⟩
    · simp only [finish, Option.map_some]
      rcases opcodeRun op act _ with ⟨_, e⟩ | ⟨err, e⟩ <;> exact ⟨_, rfl⟩
  | data op data =>
    simp only [runFrame, offerData, Frame.run]
    rcases runOpcodeWithData op data with _ | act
    · exact ⟨_, rfl⟩
    · simp only [finish, Option.map_some]
      rcases dataRun act _ with ⟨_, e⟩ | ⟨err, e⟩ <;> exact ⟨_, rfl⟩
  | line l =>
    simp only [runFrame, Frame.run]
    rcases l.command with _ | command
    · exact ⟨_, rfl⟩
    · simp only [finish, Option.map_some]
      rcases lineRun command l _ with ⟨_, e⟩ | ⟨err, e⟩ <;> exact ⟨_, rfl⟩

/-- **What waits for the caller is what the verdict leaves**, in the wire format of the frame, and
the status is noted from it, unless it was read as an opcode. -/
theorem notes_handled (payload : Bytes) (d : Device W R D) :
    (d.handled payload).2.response = ({} : Response).put (d.handled payload).1
        ((d.verdict payload).data (d.handled payload).1) ∧
      (d.handled payload).2.status = if (d.pending.decode payload).1 = .opened .status
        then d.status else (d.verdict payload).status d.status := by
  obtain ⟨pending, hd⟩ := handled_snd payload d
  rw [hd, format_handled, verdict_eq]
  have hrel := endsIn_ended payload d
  generalize d.answerVerdict payload (d.pending.decode payload).1 = v,
    d.ended payload = r at hrel ⊢
  cases hrel with
  | none =>
    refine ⟨?_, (ite_self _).symm⟩
    cases (d.pending.decode payload).1.format <;> rfl
  | some h =>
    cases h with
    | ok response message status => exact ⟨response, status⟩
    | @error err e frame_ne response status =>
      rw [if_neg frame_ne]
      refine ⟨?_, ?_⟩
      · unfold concluded Device.fail
        rcases (d.pending.decode payload).1.format with _ | _
        · exact response
        · simp only [response]
          rfl
      · exact (status_fail ..).trans status

/-! ### The reply -/

theorem data_receive (payload : Bytes) (d : Device W R D) :
    (receive payload d).1.data = (d.verdict payload).data (receive payload d).1.format := by
  rw [receive_eq_settle]
  show (d.handled payload).2.response.get (d.handled payload).1 = _
  rw [(notes_handled payload d).1, Response.get_put_self]
  rfl

/-- A reply tells of a frame's verdict, and beside it whether a network is joined. -/
theorem status_receive {payload : Bytes} {d : Device W R D}
    (h : (d.pending.decode payload).1 ≠ .opened .status) :
    (receive payload d).1.status =
      { (d.verdict payload).status d.status with
        connected := (d.handled payload).2.radio.connected } := by
  have hstatus := (notes_handled payload d).2
  rw [if_neg h] at hstatus
  rw [← hstatus]
  rfl

/-- The opcode that reads the status answers it and leaves it. -/
theorem handled_status {payload : Bytes} {d : Device W R D}
    (h : (d.pending.decode payload).1 = .opened .status) :
    d.verdict payload = some (.ok { data := d.status.toBytes, message := d.status.message }) ∧
      (d.handled payload).2.status = d.status := by
  rw [verdict_eq, (notes_handled payload d).2, h]
  exact ⟨rfl, if_pos rfl⟩

theorem Error.code_mem (e : Error) : e.code ∈ ([1, 2, 3, 4, 5, 207] : List UInt8) := by
  cases e <;> simp [code]

/-- Whatever the state of the device and whatever the frame: the reply is for callers of opcodes if
the frame looks like an opcode or is the data of one, and otherwise for callers of lines. Nothing
waits for callers of the other kind when the reply takes what waits, and nothing waits behind it. A
command that fails has left nothing for its caller before that; it is told by the code and the
message of its error, and with no data to opcode callers, with the bytes of the message to line
callers. What a command that succeeds has left, all of it in the buffer of its own caller, is told
in full, and with the code of success but for the opcode that reads the status. -/
theorem replies_well_formed (d : Device W R D) (payload : Bytes) :
    let reply := (receive payload d).1
    (reply.format = .raw ↔
      payload ≠ [] ∧ (d.pending ≠ .idle ∨ ∃ code, payload = [Opcode.marker, code])) ∧
    (d.handled payload).1 = reply.format ∧
    (∀ other, other ≠ reply.format → (d.handled payload).2.response.get other = []) ∧
    (receive payload d).2.response = {} ∧
    (∀ err e, d.ended payload = some (.error err e) → e.response = {} ∧
      reply.status.code ∈ ([1, 2, 3, 4, 5, 207] : List UInt8) ∧
      reply.status.code = err.code ∧ reply.status.message = err.message ∧
      reply.data = if reply.format = .raw then [] else Text.encode err.message) ∧
    ∀ e, d.ended payload = some (.ok () e) →
      e.response = ({} : Response).put reply.format reply.data ∧
      (¬(d.pending = .idle ∧ payload = ClientCommand.openFrame .status) →
        reply.status.code = 0 ∧ reply.status.message = e.status.message) := by
  intro reply
  have hformat : reply.format = (d.pending.decode payload).1.format := format_handled payload d
  have hdata : reply.data = (d.verdict payload).data reply.format := data_receive payload d
  refine ⟨?_, rfl, fun other ho => ?_, rfl, fun err e he => ?_, fun e he => ?_⟩
  · rw [hformat]
    exact format_decode_eq_raw_iff d.pending payload
  · have ho : other ≠ (d.handled payload).1 := ho
    rw [(notes_handled payload d).1, Response.get_put_of_ne _ ho]
    cases other <;> rfl
  · obtain ⟨hverdict, hframe, hresponse⟩ := ended_error he
    have hstatus : reply.status = _ := status_receive hframe
    rw [hstatus, hdata, hverdict]
    refine ⟨hresponse, err.code_mem, rfl, rfl, ?_⟩
    cases reply.format <;> rfl
  · obtain ⟨data, hverdict, hresponse⟩ := ended_ok he
    rw [hverdict] at hdata
    refine ⟨?_, fun hs => ?_⟩
    · rw [hresponse, hformat, hdata]
      rfl
    · have hstatus : reply.status = _ := status_receive (mt decode_eq_opened_iff.1 hs)
      rw [hstatus, hverdict]
      exact ⟨rfl, rfl⟩

end StorageAdapter
