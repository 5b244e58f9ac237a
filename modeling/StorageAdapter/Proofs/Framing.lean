import StorageAdapter.Memory.Adapter
import StorageAdapter.Proofs.Notes

/-! # Framing

A client sends commands, each as one frame or as two; the adapter sees frames, among them empty ones
that may come at any time. What the frames of a list of commands do is what the commands do, one
after the other (`feed_frames`), whether or not some of them fail: the only thing that carries over
from one frame to the next is the pending command, no operation touches it (`pending_serve`), and
the frame of data that ends it may look like anything. -/

namespace StorageAdapter

open StorageAdapter.Action StorageAdapter.Device

variable {W R D : Type} [HostStorage W R] [SettingsStore W] [KeyStorage W] [DriveBay D]

/-! ### Commands of clients -/

/-- A command as a client sends it. -/
inductive ClientCommand where
  /-- An opcode that needs no data. -/
  | opcode (op : Opcode)
  /-- An opcode and its data. -/
  | opcodeWithData (op : Opcode) (data : Bytes)
  | line (payload : Bytes)
deriving DecidableEq, Repr

namespace ClientCommand

/-- What clients may send: data and lines are not empty, and no line looks like an opcode frame. -/
def WellFormed : ClientCommand → Prop
  | opcode op => op.needsNoData = true
  | opcodeWithData op data => op.needsNoData = false ∧ data ≠ []
  | line payload => payload ≠ [] ∧ ∀ code, payload ≠ [Opcode.marker, code]

/-- The frame of an opcode. -/
def openFrame (op : Opcode) : Bytes := [Opcode.marker, op.code]

/-- The frames of a command. -/
def frames : ClientCommand → List Bytes
  | opcode op => [openFrame op]
  | opcodeWithData op data => [openFrame op, data]
  | line payload => [payload]

/-- The command that a frame runs, if any: the dispatcher has something to do for it. -/
def ranBy (payload : Bytes) (d : Device W R D) : Option ClientCommand :=
  match (d.pending.decode payload).1 with
  | .opened op =>
    if (runOpcode op payload : Option (Action (Device W R D) Unit)).isSome then some (opcode op)
    else none
  | .data op data =>
    if (runOpcodeWithData op data : Option (Action (Device W R D) Unit)).isSome then
      some (opcodeWithData op data)
    else none
  | .line _ => some (line payload)
  | .empty | .unknown _ => none

end ClientCommand

/-- A device with what was sent to it so far: the commands that ran and the replies to the frames
that were not empty, the first ones first. -/
structure Session (W R D : Type) where
  device : Device W R D
  ran : List ClientCommand := []
  replies : List Reply := []

namespace Session

/-- Hands a frame to the device. -/
def feed (s : Session W R D) (payload : Bytes) : Session W R D where
  device := (receive payload s.device).2
  ran := s.ran ++ (ClientCommand.ranBy payload s.device).toList
  replies := if payload = [] then s.replies else s.replies ++ [(receive payload s.device).1]

/-- Ends a command: no command is pending any more. -/
def conclude (s : Session W R D) (c : ClientCommand) (format : BusFormat) (d : Device W R D) :
    Session W R D where
  device := (({ d with pending := .idle }).settle format).2
  ran := s.ran ++ [c]
  replies := s.replies ++ [(({ d with pending := .idle }).settle format).1]

omit [HostStorage W R] [SettingsStore W] [KeyStorage W] [DriveBay D] in
theorem ran_conclude (s : Session W R D) (c : ClientCommand) (format : BusFormat)
    (d : Device W R D) : (s.conclude c format d).ran = s.ran ++ [c] := rfl

omit [HostStorage W R] [SettingsStore W] [KeyStorage W] [DriveBay D] in
theorem pending_conclude (s : Session W R D) (c : ClientCommand) (format : BusFormat)
    (d : Device W R D) : (s.conclude c format d).device.pending = .idle := rfl

/-- Runs a command as a whole, without regard to how it is told from others. -/
def execute (s : Session W R D) (c : ClientCommand) : Session W R D :=
  let d := { s.device with response := {} }
  match c with
  | .opcode op =>
    match runOpcode op (ClientCommand.openFrame op) with
    | some act =>
      s.conclude c .raw (finish .raw (opcodeRun op act) { d with pending := .opened op })
    | none => s
  | .opcodeWithData op data =>
    let (reply, d) := ({ d with pending := .waiting op }).settle .raw
    match runOpcodeWithData op data with
    | some act => { s with replies := s.replies ++ [reply] }.conclude c .raw
        (finish .raw (dataRun act) { d with pending := .waiting op })
    | none => s
  | .line payload =>
    match (Line.parse payload).command with
    | some command => s.conclude c .basic (finish .basic (lineRun command (.parse payload)) d)
    | none => s.conclude c .basic d

end Session

/-! ### One frame -/

theorem ofByte?_code (op : Opcode) : Opcode.ofByte? op.code = some op := by
  cases op <;> rfl

theorem ofByte?_eq_some_iff {code : UInt8} {op : Opcode} :
    Opcode.ofByte? code = some op ↔ op.code = code := by
  constructor
  · intro h
    unfold Opcode.ofByte? at h
    simpa using List.find?_some h
  · rintro rfl
    exact ofByte?_code op

/-- No two opcodes have the same frame. -/
theorem marker_eq_openFrame_iff {code : UInt8} {op : Opcode} :
    [Opcode.marker, code] = ClientCommand.openFrame op ↔ Opcode.ofByte? code = some op := by
  rw [ofByte?_eq_some_iff]
  unfold ClientCommand.openFrame
  simp [eq_comm]

theorem receive_of_decode {payload : Bytes} {d : Device W R D} {frame : Frame} {pending : Pending}
    (h : d.pending.decode payload = (frame, pending)) :
    receive payload d =
      let x := runFrame payload frame { d with response := {}, pending }
      x.2.settle x.1 := by
  unfold receive
  rw [h]

theorem receive_answered {payload : Bytes} {d : Device W R D} {frame : Frame} {pending : Pending}
    (h : d.pending.decode payload = (frame, pending)) :
    receive payload d =
      let x := answerFrame payload frame { d with response := {}, pending }
      x.2.settle x.1 := by
  rw [receive_eq_answerFrame, h]

theorem decode_openFrame (op : Opcode) :
    Pending.idle.decode (ClientCommand.openFrame op) = (.opened op, .opened op) := by
  unfold Pending.decode Pending.decodeIdle ClientCommand.openFrame
  simp [ofByte?_code]

theorem decode_data {payload : Bytes} (hp : payload ≠ []) (op : Opcode) :
    (Pending.waiting op).decode payload = (.data op payload, .waiting op) := by
  unfold Pending.decode
  simp [hp]

theorem decode_line {payload : Bytes} (hp : payload ≠ [])
    (hl : ∀ code, payload ≠ [Opcode.marker, code]) :
    Pending.idle.decode payload = (.line (.parse payload), .idle) := by
  unfold Pending.decode Pending.decodeIdle
  rw [if_neg (by simpa using hp)]
  simp only
  split
  · next first code =>
    rw [if_neg fun hf => hl code (by rw [hf])]
  · rfl

/-- With a command pending, a frame is data for it. -/
theorem exists_decode_data {p : Pending} (hn : p ≠ .idle) {payload : Bytes} (hp : payload ≠ []) :
    ∃ op, p.decode payload = (.data op payload, .waiting op) := by
  cases p with
  | idle => exact absurd rfl hn
  | opened op => exact ⟨op, by simp [Pending.decode, hp]⟩
  | waiting op => exact ⟨op, decode_data hp op⟩

/-- With none pending, a frame is a line, or it is that of an opcode, which may be unknown. -/
theorem decode_idle_cases {payload : Bytes} (hp : payload ≠ []) :
    ((∀ code, payload ≠ [Opcode.marker, code]) ∧
      Pending.idle.decode payload = (.line (.parse payload), .idle)) ∨
    (∃ code, Opcode.ofByte? code = none ∧ payload = [Opcode.marker, code] ∧
      Pending.idle.decode payload = (.unknown code, .idle)) ∨
    ∃ op, payload = ClientCommand.openFrame op ∧
      Pending.idle.decode payload = (.opened op, .opened op) := by
  by_cases hl : ∀ code, payload ≠ [Opcode.marker, code]
  · exact .inl ⟨hl, decode_line hp hl⟩
  simp only [not_forall, not_not] at hl
  obtain ⟨code, rfl⟩ := hl
  rcases hc : Opcode.ofByte? code with _ | op
  · exact .inr (.inl ⟨code, hc, rfl, by simp [Pending.decode, Pending.decodeIdle, hc]⟩)
  · obtain rfl := ofByte?_eq_some_iff.1 hc
    exact .inr (.inr ⟨op, rfl, decode_openFrame op⟩)

/-- An opcode that needs data waits for it. -/
theorem receive_openFrame {op : Opcode} (hop : op.needsNoData = false) {d : Device W R D}
    (hd : d.pending = .idle) : receive (ClientCommand.openFrame op) d =
      ({ d with response := {}, pending := .waiting op } : Device W R D).settle .raw := by
  have hdecode : d.pending.decode (ClientCommand.openFrame op) = (.opened op, .opened op) := by
    rw [hd, decode_openFrame]
  have hsome := isSome_runOpcode (W := W) (R := R) (D := D) op (ClientCommand.openFrame op)
  rw [hop, Option.isSome_eq_false_iff, Option.isNone_iff_eq_none] at hsome
  rw [receive_of_decode hdecode]
  simp only [runFrame, tryOpcode, hsome, Pending.tried, Bool.false_eq_true, if_false]

theorem receive_data {op : Opcode} {data : Bytes} (hdata : data ≠ [])
    {act : Action (Device W R D) Bytes} (hact : answerOpcodeWithData op data = some act)
    {d : Device W R D} (hd : d.pending = .waiting op) : receive data d =
      ({ noteOpcode op act { d with response := {} } with pending := .idle } :
        Device W R D).settle .raw := by
  have hdecode : d.pending.decode data = (.data op data, .waiting op) := by
    rw [hd, decode_data hdata]
  rw [receive_answered hdecode]
  simp only [answerFrame, hact, Pending.offered, if_true, ← hd]

theorem receive_line {payload : Bytes} (hp : payload ≠ [])
    (hl : ∀ code, payload ≠ [Opcode.marker, code]) {command : Command}
    (hc : (Line.parse payload).command = some command) {d : Device W R D}
    (hd : d.pending = .idle) :
    receive payload d =
    (noteLine (answerLine command (.parse payload)) { d with response := {} }).settle .basic := by
  have hdecode : d.pending.decode payload = (.line (.parse payload), d.pending) := by
    rw [hd, decode_line hp hl]
  rw [receive_answered hdecode]
  simp only [answerFrame, hc]

/-! ### One command -/

/-- An opcode is still noted as just opened when its run ends. -/
theorem pending_finish_opcodeRun {op : Opcode} {frame : Bytes} {act : Action (Device W R D) Unit}
    (hact : runOpcode op frame = some act) {d : Device W R D} (hd : d.response = {}) :
    (finish .raw (opcodeRun op act) d).pending = d.pending := by
  obtain ⟨hnone, -⟩ | ⟨_, answer, -, hanswer, -⟩ :=
    rel_cases (leavesBinary_runOpcode (W := W) (R := R) (D := D) op frame)
  · exact absurd (hnone.symm.trans hact) nofun
  · rw [finish_opcodeRun hd hact hanswer, pending_noteOpcode hanswer]

theorem feed_opcode {op : Opcode} (hop : op.needsNoData = true) {s : Session W R D}
    (hs : s.device.pending = .idle) :
    s.feed (ClientCommand.openFrame op) = s.execute (.opcode op) := by
  have hd : s.device.pending.decode (ClientCommand.openFrame op) = (.opened op, .opened op) := by
    rw [hs, decode_openFrame]
  have hsome := isSome_runOpcode (W := W) (R := R) (D := D) op (ClientCommand.openFrame op)
  rw [hop] at hsome
  obtain ⟨act, hact⟩ := Option.isSome_iff_exists.1 hsome
  have hp := pending_finish_opcodeRun hact
    (d := { s.device with response := {}, pending := .opened op }) rfl
  unfold Session.feed Session.execute Session.conclude ClientCommand.ranBy
  rw [receive_of_decode hd, hd]
  simp only [runFrame, tryOpcode, hact, hp, Pending.tried]
  rfl

theorem feed_opcodeWithData {op : Opcode} (hop : op.needsNoData = false) {data : Bytes}
    (hdata : data ≠ []) {s : Session W R D} (hs : s.device.pending = .idle) :
    (s.feed (ClientCommand.openFrame op)).feed data = s.execute (.opcodeWithData op data) := by
  -- the opcode waits for its data
  have hopen : s.feed (ClientCommand.openFrame op) =
      { s with
        device := (({ s.device with response := {}, pending := .waiting op }).settle .raw).2
        replies := s.replies ++
          [(({ s.device with response := {}, pending := .waiting op }).settle .raw).1] } := by
    have hsome := isSome_runOpcode (W := W) (R := R) (D := D) op (ClientCommand.openFrame op)
    rw [hop, Option.isSome_eq_false_iff, Option.isNone_iff_eq_none] at hsome
    unfold Session.feed ClientCommand.ranBy
    rw [receive_openFrame hop hs, hs, decode_openFrame]
    simp only [hsome]
    simp [ClientCommand.openFrame]
  have hsome := isSome_runOpcodeWithData (W := W) (R := R) (D := D) op data
  rw [hop] at hsome
  obtain ⟨act, hact⟩ := Option.isSome_iff_exists.1 hsome
  have hd : (({ s.device with response := {}, pending := .waiting op } :
      Device W R D).settle .raw).2.pending.decode data = (.data op data, .waiting op) :=
    decode_data hdata op
  rw [hopen]
  unfold Session.feed Session.execute Session.conclude ClientCommand.ranBy
  rw [receive_of_decode hd, hd]
  simp only [runFrame, offerData, hact, if_neg hdata]
  rfl

theorem feed_line {payload : Bytes} (hp : payload ≠ [])
    (hl : ∀ code, payload ≠ [Opcode.marker, code]) {s : Session W R D}
    (hs : s.device.pending = .idle) : s.feed payload = s.execute (.line payload) := by
  have hd : s.device.pending.decode payload = (.line (.parse payload), .idle) := by
    rw [hs, decode_line hp hl]
  unfold Session.feed Session.execute Session.conclude ClientCommand.ranBy
  rw [receive_of_decode hd, hd]
  simp only [runFrame, if_neg hp]
  rcases (Line.parse payload).command with _ | command
  · rfl
  · have hidle : ({ s.device with response := {}, pending := .idle } : Device W R D) =
        { s.device with response := {} } := by
      rw [← hs]
    simp only [hidle]
    have hc := pending_noteLine command (.parse payload) { s.device with response := {} }
    rw [← finish_lineRun rfl] at hc
    generalize finish .basic (lineRun command (.parse payload)) { s.device with response := {} } =
      e at hc ⊢
    have he : { e with pending := .idle } = e := by
      rw [← hs]
      exact hc ▸ rfl
    rw [he]
    rfl

theorem feed_frames {c : ClientCommand} (hc : c.WellFormed) {s : Session W R D}
    (hs : s.device.pending = .idle) : c.frames.foldl Session.feed s = s.execute c := by
  cases c with
  | opcode op => exact feed_opcode hc hs
  | opcodeWithData op data => exact feed_opcodeWithData hc.1 hc.2 hs
  | line payload => exact feed_line hc.1 hc.2 hs

/-- A command that ran is noted, and none is pending. -/
theorem ran_execute {c : ClientCommand} (hc : c.WellFormed) (s : Session W R D) :
    (s.execute c).ran = s.ran ++ [c] ∧ (s.execute c).device.pending = .idle := by
  unfold Session.execute
  cases c with
  | opcode op =>
    have h := isSome_runOpcode (W := W) (R := R) (D := D) op (ClientCommand.openFrame op)
    obtain ⟨act, hact⟩ := Option.isSome_iff_exists.1 (h.trans hc)
    simp only [hact]
    exact ⟨rfl, rfl⟩
  | opcodeWithData op data =>
    have h := isSome_runOpcodeWithData (W := W) (R := R) (D := D) op data
    rw [hc.1] at h
    obtain ⟨act, hact⟩ := Option.isSome_iff_exists.1 h
    simp only [hact]
    exact ⟨rfl, rfl⟩
  | line payload =>
    rcases h : (Line.parse payload).command with _ | command
    · simp only [h, Session.ran_conclude, Session.pending_conclude, and_self]
    · simp only [h, Session.ran_conclude, Session.pending_conclude, and_self]

/-- Commands sent one after the other, without empty frames, run one after the other. -/
theorem feed_flatMap_frames {cs : List ClientCommand} (hcs : ∀ c ∈ cs, c.WellFormed)
    {s : Session W R D} (hs : s.device.pending = .idle) :
    (cs.flatMap ClientCommand.frames).foldl Session.feed s = cs.foldl Session.execute s ∧
      (cs.foldl Session.execute s).device.pending = .idle ∧
      (cs.foldl Session.execute s).ran = s.ran ++ cs := by
  induction cs generalizing s with
  | nil => exact ⟨rfl, hs, (List.append_nil _).symm⟩
  | cons c cs ih =>
    have hc := hcs c List.mem_cons_self
    obtain ⟨hfeed, hidle, hran⟩ := ih (fun c' hc' => hcs c' (List.mem_cons_of_mem c hc'))
      (ran_execute hc s).2
    rw [List.flatMap_cons, List.foldl_append, feed_frames hc hs, List.foldl_cons]
    refine ⟨hfeed, hidle, ?_⟩
    rw [hran, (ran_execute hc s).1, List.append_assoc]
    rfl

/-! ### Empty frames -/

/-- Nothing waits for the caller, and the status tells whether a network is joined. -/
def Device.Settled (d : Device W R D) : Prop :=
  d.response = {} ∧ d.status.connected = d.radio.connected

theorem settled_feed (s : Session W R D) (payload : Bytes) : (s.feed payload).device.Settled :=
  ⟨rfl, rfl⟩

theorem feed_empty {s : Session W R D} (h : s.device.Settled) : s.feed [] = s := by
  obtain ⟨d, ran, replies⟩ := s
  obtain ⟨hr, hc⟩ := h
  have hd : (receive [] d).2 = d := by
    show { d with status := { d.status with connected := d.radio.connected }, response := {} } = d
    rw [← hc, ← hr]
  unfold Session.feed
  rw [hd]
  simp [ClientCommand.ranBy, Pending.decode]

/-- Empty frames may be left out, but for those before the first frame that is not empty. -/
theorem feed_filter (frames : List Bytes) {s : Session W R D} (h : s.device.Settled) :
    frames.foldl Session.feed s = (frames.filter (!·.isEmpty)).foldl Session.feed s := by
  induction frames generalizing s with
  | nil => rfl
  | cons payload frames ih =>
    rcases payload with _ | ⟨b, bs⟩
    · rw [List.foldl_cons, feed_empty h, ih h]
      rfl
    · rw [List.foldl_cons, ih (settled_feed s _)]
      rfl

/-! ### What is pending between frames -/

/-- No command is pending, or an opcode that waits for its data because it needs some. -/
def Pending.Resting (p : Pending) : Prop :=
  p = .idle ∨ ∃ op, op.needsNoData = false ∧ p = .waiting op

/-- **A frame of data ends the command that waits for it.** -/
theorem next_waiting {op : Opcode} (hop : op.needsNoData = false) {payload : Bytes}
    (hp : payload ≠ []) : (Pending.waiting op).next payload = .idle := by
  unfold Pending.next
  rw [decode_data hp]
  simp [Pending.offered, hop]

theorem next_unknown {code : UInt8} (hcode : Opcode.ofByte? code = none) :
    Pending.idle.next [Opcode.marker, code] = .idle := by
  unfold Pending.next Pending.decode Pending.decodeIdle
  simp [hcode]

theorem next_line {payload : Bytes} (hp : payload ≠ [])
    (hl : ∀ code, payload ≠ [Opcode.marker, code]) : Pending.idle.next payload = .idle := by
  unfold Pending.next
  rw [decode_line hp hl]

theorem resting_next_openFrame (op : Opcode) :
    (Pending.idle.next (ClientCommand.openFrame op)).Resting := by
  unfold Pending.next
  rw [decode_openFrame]
  show (Pending.tried (.opened op) op.needsNoData).Resting
  rcases h : op.needsNoData with _ | _
  · exact .inr ⟨op, h, rfl⟩
  · exact .inl rfl

/-- What is pending before and after a frame: never an opcode that was not tried. -/
theorem resting_next {p : Pending} (h : p.Resting) (payload : Bytes) :
    (p.next payload).Resting := by
  by_cases hp : payload = []
  · subst hp
    exact h
  obtain rfl | ⟨op, hop, rfl⟩ := h
  · obtain ⟨hl, -⟩ | ⟨code, hc, rfl, -⟩ | ⟨op, rfl, -⟩ := decode_idle_cases hp
    · exact .inl (next_line hp hl)
    · exact .inl (next_unknown hc)
    · exact resting_next_openFrame op
  · exact .inl (next_waiting hop hp)

theorem resting_run {d : Device W R D} (hd : d.pending.Resting) (frames : List Bytes) :
    (frames.foldl Session.feed { device := d }).device.pending.Resting := by
  refine List.foldlRecOn frames Session.feed
    (motive := fun s : Session W R D => s.device.pending.Resting) hd ?_
  intro s hs payload _
  show (receive payload s.device).2.pending.Resting
  rw [pending_receive]
  exact resting_next hs payload

/-- Only the frames that are not empty count, once the device has seen the first frame. -/
theorem feed_start (d : Device W R D) (frames : List Bytes) :
    ∃ e, (e = d ∨ e = (receive [] d).2) ∧ frames.foldl Session.feed { device := d } =
      (frames.filter (!·.isEmpty)).foldl Session.feed { device := e } := by
  rcases frames with _ | ⟨_ | ⟨b, bs⟩, frames⟩
  · exact ⟨d, .inl rfl, rfl⟩
  · refine ⟨(receive [] d).2, .inr rfl, ?_⟩
    have hfirst : Session.feed { device := d } [] = { device := (receive [] d).2 } := by
      simp [Session.feed, ClientCommand.ranBy, Pending.decode]
    rw [List.foldl_cons, hfirst, feed_filter frames ⟨rfl, rfl⟩]
    rfl
  · refine ⟨d, .inl rfl, ?_⟩
    rw [List.foldl_cons, feed_filter frames (settled_feed _ _)]
    rfl

/-- **Frames run the commands that the client sent**, once each, in order, with their data, and
whether or not they fail; empty frames in between change nothing, except that one at the very
beginning may bring the status up to date. After any frames at all, no command is pending or an
opcode waits for data that it needs; the next frame with data in it ends it, and what is unknown
leaves nothing pending. -/
theorem frames_run_commands {d : Device W R D} (hd : d.pending = .idle) :
    (∀ (cs : List ClientCommand) (frames : List Bytes), (∀ c ∈ cs, c.WellFormed) →
      frames.filter (!·.isEmpty) = cs.flatMap ClientCommand.frames →
      let s := frames.foldl Session.feed { device := d }
      s.device.pending = .idle ∧ s.ran = cs ∧ ∃ e, (e = d ∨ e = (receive [] d).2) ∧
        s = cs.foldl Session.execute { device := e }) ∧
    ∀ frames : List Bytes,
      let e := (frames.foldl Session.feed { device := d }).device
      e.pending.Resting ∧
      (∀ payload, payload ≠ [] → e.pending ≠ .idle → (receive payload e).2.pending = .idle) ∧
      (∀ code, e.pending = .idle → Opcode.ofByte? code = none →
        (receive [Opcode.marker, code] e).2.pending = .idle) ∧
      ∀ payload, payload ≠ [] → (∀ code, payload ≠ [Opcode.marker, code]) → e.pending = .idle →
        (Line.parse payload).command = none → (receive payload e).2.pending = .idle := by
  constructor
  · intro cs frames hcs hframes
    -- an empty frame in front only clears what waits and notes whether a network is joined
    obtain ⟨e, he, hs⟩ := feed_start d frames
    have hidle : e.pending = .idle := by
      rcases he with rfl | rfl
      · exact hd
      · exact hd
    obtain ⟨hfeed, hpending, hran⟩ := feed_flatMap_frames hcs (s := { device := e }) hidle
    simp only
    rw [hs, hframes, hfeed]
    exact ⟨hpending, hran, e, he, rfl⟩
  · intro frames
    have hrest := resting_run (Or.inl hd) frames
    simp only [pending_receive]
    refine ⟨hrest, fun payload hp hn => ?_, fun code he hc => he ▸ next_unknown hc,
      fun payload hp hl he _ => he ▸ next_line hp hl⟩
    obtain he | ⟨op, hop, he⟩ := hrest
    · exact absurd he hn
    · exact he ▸ next_waiting hop hp

/-- A scan, a mount whose data looks like the frame of a scan, and a line, with empty frames in
between. -/
theorem frames_run_scan_mount_line :
    let d : Memory.Adapter := Memory.Surroundings.start {}
    let cs : List ClientCommand :=
      [.opcode .scan, .opcodeWithData .mountHost [0x01, 0xFD], .line [83, 67, 65, 78]]
    let frames : List Bytes :=
      [[], [0x01, 0xFD], [0x01, 0xF9], [], [0x01, 0xFD], [], [83, 67, 65, 78]]
    d.pending = .idle ∧ (∀ c ∈ cs, c.WellFormed) ∧
      frames.filter (!·.isEmpty) = cs.flatMap ClientCommand.frames ∧
      (frames.foldl Session.feed { device := d }).ran = cs := by
  intro d cs frames
  have hcs : ∀ c ∈ cs, c.WellFormed := by
    intro c hc
    simp only [cs, List.mem_cons, List.not_mem_nil, or_false] at hc
    rcases hc with rfl | rfl | rfl
    · rfl
    · exact ⟨rfl, List.cons_ne_nil _ _⟩
    · exact ⟨List.cons_ne_nil _ _, fun code h => by simp at h⟩
  have hframes : frames.filter (!·.isEmpty) = cs.flatMap ClientCommand.frames := by decide
  exact ⟨rfl, hcs, hframes, ((frames_run_commands (d := d) rfl).1 cs frames hcs hframes).2.1⟩

end StorageAdapter
