import StorageAdapter.Proofs.Retouch

/-! # Frames

What is pending, what waits for the caller and how the last command ended are notes, and no
operation looks at them (`perform_withNotes`). So it makes no difference that a command runs while a
success is noted already, and that it leaves its answer itself: what is left in the end is what its
answer says, in the buffer of the frame's own wire format (`opcodeRun_withNotes`,
`dataRun_withNotes`, `lineRun_withNotes`), and a frame may be told by the answers alone
(`receive_eq_answerFrame`). A frame is an operation and the note of its outcome (`receive_served`,
`concluded_receive`), and if no error is noted, the operation succeeded (`receive_ok`). -/

namespace StorageAdapter

open StorageAdapter.Action StorageAdapter.Device

variable {W R D : Type}

/-! ### Other notes -/

/-- The device with other notes. -/
def Device.withNotes (pending : Pending) (response : Response) (status : Status)
    (d : Device W R D) : Device W R D := { d with pending, response, status }

variable [HostStorage W R] [SettingsStore W] [KeyStorage W] [DriveBay D]

section WithNotes

variable {p : Pending} {q : Response} {s : Status}

theorem perform_withNotes (o : Operation) :
    Commutes (withNotes p q s) (o.perform : Action (Device W R D) Unit) :=
  perform_retouch o (a := ⟨id, fun _ => p, fun _ => q, fun _ => s⟩) fun _ => rfl

theorem serve_withNotes (r : Request) :
    Commutes (withNotes p q s) (r.serve : Action (Device W R D) Unit) := by
  rcases r with e | _ | o
  · exact Commutes.throw e
  · exact Commutes.pure ()
  · exact perform_withNotes o

theorem answerOpcode_withNotes {op : Opcode} (hop : op ≠ .status) {frame : Bytes}
    {act : Action (Device W R D) Bytes} (h : answerOpcode op frame = some act) :
    Commutes (withNotes p q s) act :=
  answerOpcode_retouch (a := ⟨id, fun _ => p, fun _ => q, fun _ => s⟩) (fun hs => absurd hs hop)
    (fun _ => rfl) h

theorem answerOpcodeWithData_withNotes {op : Opcode} {data : Bytes}
    {act : Action (Device W R D) Bytes} (h : answerOpcodeWithData op data = some act) :
    Commutes (withNotes p q s) act :=
  answerOpcodeWithData_retouch (a := ⟨id, fun _ => p, fun _ => q, fun _ => s⟩) (fun _ => rfl) h

theorem answerLine_withNotes {command : Command} (h : command ≠ .status) (l : Line) :
    Commutes (withNotes p q s) (answerLine command l : Action (Device W R D) Answer) :=
  answerLine_retouch (a := ⟨id, fun _ => p, fun _ => q, fun _ => s⟩) (fun hs => absurd hs h)
    (fun _ => rfl) l

end WithNotes

theorem pending_serve (r : Request) (d : Device W R D) :
    (r.serve.after d).pending = d.pending := by
  have h : r.serve.after d = withNotes d.pending d.response d.status (r.serve.after d) :=
    (serve_withNotes r).after_eq d
  rw [h]
  rfl

/-! ### Noted answers -/

section Noted

omit [HostStorage W R] [SettingsStore W] [KeyStorage W] [DriveBay D]

/-- The device with an answer for callers of opcodes noted: the data and, except for the opcode that
reads the status, an empty message. -/
def Device.noteOpcode (op : Opcode) (act : Action (Device W R D) Bytes) (d : Device W R D) :
    Device W R D :=
  match act d with
  | .ok data d =>
    { d with
      response := d.response.put .raw data
      status := if op = .status then d.status else d.status.succeed "" }
  | .error e d => { d with status := d.status.fail e }

/-- The device with an answer for callers of lines noted. -/
def Device.noteLine (act : Action (Device W R D) Answer) (d : Device W R D) : Device W R D :=
  match act d with
  | .ok answer d =>
    { d with
      response := d.response.put .basic answer.data
      status := d.status.succeed answer.message }
  | .error e d =>
    { d with
      response := d.response.put .basic (Text.encode e.message)
      status := d.status.fail e }

theorem noteOpcode_after (op : Opcode) (act : Action (Device W R D) Bytes) (d : Device W R D) :
    ∃ response status, noteOpcode op act d = { act.after d with response, status } := by
  unfold noteOpcode after
  rcases act d with ⟨data, e⟩ | ⟨err, e⟩
  · exact ⟨_, _, rfl⟩
  · exact ⟨e.response, _, rfl⟩

theorem noteLine_after (act : Action (Device W R D) Answer) (d : Device W R D) :
    ∃ response status, noteLine act d = { act.after d with response, status } := by
  unfold noteLine after
  rcases act d with ⟨answer, e⟩ | ⟨err, e⟩ <;> exact ⟨_, _, rfl⟩

variable {p : Pending} {q : Response} {s : Status}

theorem noteOpcode_withNotes {act : Action (Device W R D) Bytes}
    (h : Commutes (withNotes p q s) act) (op : Opcode) (d : Device W R D) :
    noteOpcode op act (withNotes p q s d) = match act d with
      | .ok data e =>
        e.withNotes p (q.put .raw data) (if op = .status then s else s.succeed "")
      | .error err e => e.withNotes p q (s.fail err) := by
  unfold noteOpcode
  rw [h d]
  rcases act d with ⟨data, e⟩ | ⟨err, e⟩ <;> rfl

theorem noteLine_withNotes {act : Action (Device W R D) Answer}
    (h : Commutes (withNotes p q s) act) (d : Device W R D) :
    noteLine act (withNotes p q s d) = match act d with
      | .ok answer e => e.withNotes p (q.put .basic answer.data) (s.succeed answer.message)
      | .error err e => e.withNotes p (q.put .basic (Text.encode err.message)) (s.fail err) := by
  unfold noteLine
  rw [h d]
  rcases act d with ⟨answer, e⟩ | ⟨err, e⟩ <;> rfl

/-- **What leaves its answer for callers of opcodes** ends like the answer with nothing left before,
and leaves the answer or, with an error, nothing. -/
theorem LeavesBinary.apply {act : Action (Device W R D) Unit} {answer : Action (Device W R D) Bytes}
    (h : LeavesBinary act answer) (hc : Commutes (withNotes p {} s) answer) (d : Device W R D) :
    act (withNotes p {} s d) = match answer d with
      | .ok bytes e => .ok () (e.withNotes p (({} : Response).put .raw bytes) s)
      | .error err e => .error err (e.withNotes p {} s) := by
  cases h with
  | nothing =>
    have hact : Commutes (withNotes p {} s) act := hc.of_bind_pure fun _ _ _ => rfl
    unfold silently
    rw [hact d, bind_apply]
    rcases act d with ⟨u, e⟩ | ⟨err, e⟩ <;> rfl
  | data _ =>
    rw [bind_apply, hc d]
    rcases answer d with ⟨bytes, e⟩ | ⟨err, e⟩ <;> rfl

/-- **What leaves its answer for callers of lines** while a success is noted leaves the answer and
its message, or nothing. -/
theorem LeavesText.apply {act : Action (Device W R D) Unit} {answer : Action (Device W R D) Answer}
    (h : LeavesText act answer) (hc : Commutes (withNotes p {} (s.succeed "ok")) answer)
    (d : Device W R D) :
    act (withNotes p {} (s.succeed "ok") d) = match answer d with
      | .ok a e => .ok () (e.withNotes p (({} : Response).put .basic a.data) (s.succeed a.message))
      | .error err e => .error err (e.withNotes p {} (s.succeed "ok")) := by
  cases h with
  | nothing =>
    have hact : Commutes (withNotes p {} (s.succeed "ok")) act :=
      hc.of_bind_pure fun _ _ _ => rfl
    rw [hact d, bind_apply]
    rcases act d with ⟨u, e⟩ | ⟨err, e⟩ <;> rfl
  | data read =>
    have hread : Commutes (withNotes p {} (s.succeed "ok")) read :=
      hc.of_bind_pure fun _ _ h => congrArg Answer.data h
    rw [bind_apply, bind_apply, hread d]
    rcases read d with ⟨data, e⟩ | ⟨err, e⟩ <;> rfl
  | message read =>
    have hread : Commutes (withNotes p {} (s.succeed "ok")) read :=
      hc.of_bind_pure fun _ _ h => congrArg Answer.message h
    rw [bind_apply, bind_apply, hread d]
    rcases read d with ⟨message, e⟩ | ⟨err, e⟩ <;> rfl
  | both _ =>
    rw [bind_apply, hc d]
    rcases answer d with ⟨a, e⟩ | ⟨err, e⟩ <;> rfl

end Noted

/-! ### Runs of commands -/

section Runs

variable {op : Opcode} {act : Action (Device W R D) Unit} {answer : Action (Device W R D) Bytes}

/-- **The run of an opcode without data** ends like its answer and leaves it or, with an error,
nothing. -/
theorem opcodeRun_withNotes {frame : Bytes} (hact : runOpcode op frame = some act)
    (hanswer : answerOpcode op frame = some answer) (p : Pending) (d : Device W R D) :
    let s := if op = .status then d.status else d.status.succeed ""
    opcodeRun op act (withNotes p {} d.status d) = match answer d with
      | .ok bytes e => .ok () (e.withNotes p (({} : Response).put .raw bytes) s)
      | .error err e => .error err (e.withNotes p {} s) := by
  intro s
  by_cases hop : op = .status
  · subst hop
    cases hact
    cases hanswer
    rfl
  have hrel := leavesBinary_runOpcode (W := W) (R := R) (D := D) op frame
  rw [hact, hanswer] at hrel
  obtain ⟨hleaves⟩ := hrel
  have hrun : opcodeRun op act (withNotes p {} d.status d) = act (withNotes p {} s d) := by
    unfold opcodeRun s
    rw [if_pos hop, if_neg hop]
    rfl
  rw [hrun]
  exact hleaves.apply (answerOpcode_withNotes hop hanswer) d

/-- **The run of an opcode with data** ends like its answer and leaves it or, with an error,
nothing. -/
theorem dataRun_withNotes {data : Bytes} (hact : runOpcodeWithData op data = some act)
    (hanswer : answerOpcodeWithData op data = some answer) (p : Pending) (d : Device W R D) :
    dataRun act (withNotes p {} d.status d) = match answer d with
      | .ok bytes e => .ok () (e.withNotes p (({} : Response).put .raw bytes) (d.status.succeed ""))
      | .error err e => .error err (e.withNotes p {} (d.status.succeed "")) := by
  have hrel := leavesBinary_runOpcodeWithData (W := W) (R := R) (D := D) op data
  rw [hact, hanswer] at hrel
  obtain ⟨hleaves⟩ := hrel
  unfold dataRun succeed
  rw [tryFinally_modify_apply, hleaves.apply (answerOpcodeWithData_withNotes hanswer) d]
  rcases answer d with ⟨bytes, e⟩ | ⟨err, e⟩ <;> rfl

/-- **The run of a line** ends like its answer and leaves it, with its message, or nothing. -/
theorem lineRun_withNotes (command : Command) (l : Line) (p : Pending) (d : Device W R D) :
    lineRun command l (withNotes p {} d.status d) = match answerLine command l d with
      | .ok a e =>
        .ok () (e.withNotes p (({} : Response).put .basic a.data) (d.status.succeed a.message))
      | .error err e => .error err (e.withNotes p {} (d.status.succeed "ok")) := by
  by_cases hc : command = .status
  · -- the line that tells the status answers what is noted
    subst hc
    have hrun : lineRun .status l (withNotes p {} d.status d) =
        reply d.status.toLine (withNotes p {} d.status d) := rfl
    have hanswer : answerLine .status l d = .ok (.reply d.status.toLine) d := rfl
    rw [hrun, hanswer]
    generalize d.status.toLine = text
    rfl
  have hrun : lineRun command l (withNotes p {} d.status d) =
      runLine command l (withNotes p {} (d.status.succeed "ok") d) := by
    unfold lineRun
    rw [if_pos hc]
    rfl
  rw [hrun]
  exact (leavesText_runLine command l).apply (answerLine_withNotes hc l) d

variable {d : Device W R D} {r : Request}

/-- What serves a request leaves the notes as they are. -/
theorem ServesAt.after_eq_withNotes {α : Type} {act : Action (Device W R D) α}
    (h : ServesAt d r act) :
    act.after d = withNotes d.pending d.response d.status (act.after d) := by
  rw [h.after_eq]
  exact (serve_withNotes r).after_eq d

omit [HostStorage W R] [SettingsStore W] [KeyStorage W] [DriveBay D] in
theorem eq_withNotes (hd : d.response = {}) : d = withNotes d.pending {} d.status d := by
  rw [← hd]
  rfl

/-- A run that leaves what an opcode answers is finished as the answer is noted. -/
theorem finish_raw (hd : d.response = {}) (h : ServesAt d r answer)
    {run : Action (Device W R D) Unit} {s : Status}
    (hs : s = if op = .status then d.status else d.status.succeed "")
    (hrun : run (withNotes d.pending {} d.status d) = match answer d with
      | .ok bytes e => .ok () (e.withNotes d.pending (({} : Response).put .raw bytes) s)
      | .error err e => .error err (e.withNotes d.pending {} s)) :
    finish .raw run d = noteOpcode op answer d := by
  have hrun : run d = _ := (congrArg run (eq_withNotes hd)).trans hrun
  have hfail (err : Error) : s.fail err = d.status.fail err := by
    rw [hs]
    split <;> rfl
  have hkept := h.after_eq_withNotes
  unfold finish noteOpcode
  rw [hrun]
  rcases hanswer : answer d with ⟨bytes, e⟩ | ⟨err, e⟩
  · rw [after_of_ok hanswer, hd] at hkept
    rw [hkept, hs]
    rfl
  · rw [after_of_error hanswer, hd] at hkept
    rw [hkept]
    exact congrArg (withNotes d.pending {} · e) (hfail err)

theorem finish_opcodeRun (hd : d.response = {}) {frame : Bytes}
    (hact : runOpcode op frame = some act) (hanswer : answerOpcode op frame = some answer) :
    finish .raw (opcodeRun op act) d = noteOpcode op answer d :=
  finish_raw hd (serves_answerOpcode hanswer d) rfl (opcodeRun_withNotes hact hanswer d.pending d)

theorem finish_dataRun (hd : d.response = {}) {data : Bytes}
    (hact : runOpcodeWithData op data = some act)
    (hanswer : answerOpcodeWithData op data = some answer) :
    finish .raw (dataRun act) d = noteOpcode op answer d := by
  have hop : op ≠ .status := by
    rintro rfl
    cases hact
  exact finish_raw hd (serves_answerOpcodeWithData hanswer d) (if_neg hop).symm
    (dataRun_withNotes hact hanswer d.pending d)

theorem finish_lineRun (hd : d.response = {}) (command : Command) (l : Line) :
    finish .basic (lineRun command l) d = noteLine (answerLine command l) d := by
  have hrun : lineRun command l d = _ := (congrArg (lineRun command l) (eq_withNotes hd)).trans
    (lineRun_withNotes command l d.pending d)
  have hkept := (serves_answerLine command l d).after_eq_withNotes
  unfold finish noteLine
  rw [hrun]
  rcases hanswer : answerLine command l d with ⟨answer, e⟩ | ⟨err, e⟩
  · rw [after_of_ok hanswer, hd] at hkept
    rw [hkept]
    rfl
  · rw [after_of_error hanswer, hd] at hkept
    rw [hkept]
    rfl

end Runs

/-! ### Frames -/

/-- What a frame does, told by the answer to its command. -/
def Device.answerFrame (payload : Bytes) : Frame → Device W R D → BusFormat × Device W R D
  | .empty, d => (.basic, d)
  | .unknown code, d => (.raw, { d with status := d.status.fail (.unsupported code) })
  | .opened op, d => (.raw, match answerOpcode op payload with
    | some act =>
      let d := noteOpcode op act d
      { d with pending := d.pending.tried true }
    | none => { d with pending := d.pending.tried false })
  | .data op data, d => (.raw, match answerOpcodeWithData op data with
    | some act =>
      let d := noteOpcode op act d
      { d with pending := d.pending.offered true }
    | none => { d with pending := d.pending.offered false })
  | .line l, d =>
    match l.command with
    | some command => (.basic, noteLine (answerLine command l) d)
    | none => (.basic, d)

/-- **A frame leaves the answer to its command noted**, and nothing else for its caller. -/
theorem runFrame_eq_answerFrame (payload : Bytes) (frame : Frame) {d : Device W R D}
    (hd : d.response = {}) : runFrame payload frame d = answerFrame payload frame d := by
  cases frame with
  | empty => rfl
  | unknown code => rfl
  | opened op =>
    simp only [runFrame, tryOpcode, answerFrame]
    obtain ⟨hact, hanswer⟩ | ⟨act, answer, hact, hanswer, -⟩ :=
      rel_cases (leavesBinary_runOpcode (W := W) (R := R) (D := D) op payload)
    · simp only [hact, hanswer]
    · simp only [hact, hanswer, finish_opcodeRun hd hact hanswer]
  | data op data =>
    simp only [runFrame, offerData, answerFrame]
    obtain ⟨hact, hanswer⟩ | ⟨act, answer, hact, hanswer, -⟩ :=
      rel_cases (leavesBinary_runOpcodeWithData (W := W) (R := R) (D := D) op data)
    · simp only [hact, hanswer]
    · simp only [hact, hanswer, finish_dataRun hd hact hanswer]
  | line l =>
    simp only [runFrame, answerFrame]
    rcases l.command with _ | command
    · rfl
    · simp only [finish_lineRun hd]

theorem receive_eq_answerFrame (payload : Bytes) (d : Device W R D) :
    receive payload d =
      let x := answerFrame payload (d.pending.decode payload).1
        { d with response := {}, pending := (d.pending.decode payload).2 }
      x.2.settle x.1 := by
  have h := runFrame_eq_answerFrame payload (d.pending.decode payload).1
    (d := { d with response := {}, pending := (d.pending.decode payload).2 }) rfl
  simp only [← h]
  rfl

/-- **A frame does to the device what it asks for**, and notes the pending command and the
outcome. -/
theorem receive_served (payload : Bytes) (d : Device W R D) :
    ∃ pending response status, (receive payload d).2 =
      { (asked payload d).serve.after
          { d with response := {}, pending := (d.pending.decode payload).2 } with
        pending, response, status } := by
  rw [receive_eq_answerFrame]
  unfold asked
  rcases d.pending.decode payload with ⟨frame, pending⟩
  cases frame with
  | empty => exact ⟨_, _, _, rfl⟩
  | unknown code => exact ⟨_, _, _, rfl⟩
  | opened op =>
    simp only [answerFrame]
    rw [← isSome_answerOpcode (W := W) (R := R) (D := D) op payload]
    rcases h : answerOpcode op payload with _ | act
    · exact ⟨_, _, _, rfl⟩
    · obtain ⟨response, status, hc⟩ := noteOpcode_after op act
        { d with response := {}, pending }
      rw [(serves_answerOpcode h _).after_eq] at hc
      simp only [hc]
      exact ⟨_, _, _, rfl⟩
  | data op data =>
    simp only [answerFrame]
    obtain ⟨hop, h⟩ | ⟨act, hop, h⟩ :=
      answerOpcodeWithData_cases (W := W) (R := R) (D := D) op data
    · simp only [h, hop]
      exact ⟨_, _, _, rfl⟩
    · obtain ⟨response, status, hc⟩ := noteOpcode_after op act
        { d with response := {}, pending }
      rw [(serves_answerOpcodeWithData h _).after_eq] at hc
      simp only [h, hc, hop]
      exact ⟨_, _, _, rfl⟩
  | line l =>
    simp only [answerFrame]
    rcases l.command with _ | command
    · exact ⟨_, _, _, rfl⟩
    · obtain ⟨response, status, hc⟩ := noteLine_after (answerLine command l)
        { d with response := {}, pending }
      rw [(serves_answerLine command l _).after_eq] at hc
      simp only [hc]
      exact ⟨_, _, _, rfl⟩

/-! ### What is noted of a command -/

theorem Error.code_ne_successCode (e : Error) : e.code ≠ successCode := by
  cases e <;> exact nofun

/-- **What was asked for is noted as it ended**: as a success, with the device as it was left, or
with the error. -/
inductive Concluded (r : Request) (d f : Device W R D) : Prop
  | ok (e : Device W R D) (hserve : r.serve d = .ok () e)
      (hcode : f.status.code = Error.successCode)
      (hleft : ∃ pending response status, f = { e with pending, response, status })
  | error (err : Error) (hcode : f.status.code = err.code)
      (hmessage : f.status.message = err.message)
      (hserve : r.tells = false → ∃ e, r.serve d = .error err e)

section Conclude

variable {r : Request} {d f : Device W R D}

/-- What is pending or waits for the caller is noted elsewhere. -/
theorem Concluded.settle (h : Concluded r d f) (pending : Pending) (response : Response)
    (connected : Bool) :
    Concluded r d { f with pending, response, status := { f.status with connected } } := by
  cases h with
  | ok e hserve hcode hleft =>
    obtain ⟨p, q, s, rfl⟩ := hleft
    exact .ok e hserve hcode ⟨pending, response, _, rfl⟩
  | error err hcode hmessage hserve => exact .error err hcode hmessage hserve

/-- A status without an error was left by something that succeeded. -/
theorem Concluded.ok_of_code (h : Concluded r d f) (hc : f.status.code = Error.successCode) :
    ∃ e, r.serve d = .ok () e ∧ ∃ pending response status,
      f = { e with pending, response, status } := by
  cases h with
  | ok e hserve _ hleft => exact ⟨e, hserve, hleft⟩
  | error err hcode => exact absurd (hcode.symm.trans hc) err.code_ne_successCode

/-- **The status is without an error if and only if what was asked for succeeded**, unless the
command tells something, too. -/
theorem Concluded.code_iff (h : Concluded r d f) (hr : r.tells = false) :
    f.status.code = Error.successCode ↔ ∃ e, r.serve d = .ok () e := by
  constructor
  · intro hcode
    obtain ⟨e, he, -⟩ := h.ok_of_code hcode
    exact ⟨e, he⟩
  · rintro ⟨e, he⟩
    cases h with
    | ok e' hserve hcode => exact hcode
    | error err hcode hmessage herror =>
      obtain ⟨e', he'⟩ := herror hr
      exact nomatch he.symm.trans he'

/-- What can only end in one way is noted in one way. -/
theorem Concluded.same {r' : Request} {g : Device W R D} (hserve : r.serve d = r'.serve d)
    (hr : r.tells = false) (hr' : r'.tells = false) (h : Concluded r d f)
    (h' : Concluded r' d g) : f.status.code = g.status.code ∧
      (f.status.code ≠ Error.successCode → f.status.message = g.status.message) := by
  cases h with
  | ok e he hcode =>
    cases h' with
    | ok e' he' hcode' => exact ⟨hcode.trans hcode'.symm, fun hn => absurd hcode hn⟩
    | error err hcode' hmessage' herror' =>
      obtain ⟨e', he'⟩ := herror' hr'
      rw [← hserve, he] at he'
      cases he'
  | error err hcode hmessage herror =>
    obtain ⟨e, he⟩ := herror hr
    cases h' with
    | ok e' he' hcode' =>
      rw [← hserve, he] at he'
      cases he'
    | error err' hcode' hmessage' herror' =>
      obtain ⟨e', he'⟩ := herror' hr'
      rw [← hserve, he] at he'
      cases he'
      exact ⟨hcode.trans hcode'.symm, fun _ => hmessage.trans hmessage'.symm⟩

theorem noteOpcode_concluded {op : Opcode} {act : Action (Device W R D) Bytes}
    (h : ServesAt d r act) (hop : op ≠ .status) : Concluded r d (noteOpcode op act d) := by
  unfold noteOpcode
  rcases hact : act d with ⟨data, e⟩ | ⟨err, e⟩
  · refine .ok e (h.ok hact) ?_ ⟨_, _, _, rfl⟩
    simp only [if_neg hop, Status.succeed]
  · exact .error err rfl rfl fun hr => ⟨e, h.error hr hact⟩

theorem noteLine_concluded {act : Action (Device W R D) Answer} (h : ServesAt d r act) :
    Concluded r d (noteLine act d) := by
  unfold noteLine
  rcases hact : act d with ⟨answer, e⟩ | ⟨err, e⟩
  · exact .ok e (h.ok hact) rfl ⟨_, _, _, rfl⟩
  · exact .error err rfl rfl fun hr => ⟨e, h.error hr hact⟩

end Conclude

/-- **A frame that asks for something notes how that ended.** -/
theorem concluded_receive {payload : Bytes} {d : Device W R D} (ha : asked payload d ≠ .ok none) :
    Concluded (asked payload d)
      { d with response := {}, pending := (d.pending.decode payload).2 } (receive payload d).2 := by
  revert ha
  rw [receive_eq_answerFrame]
  unfold asked
  rcases d.pending.decode payload with ⟨frame, pending⟩
  cases frame with
  | empty => exact fun ha => absurd rfl ha
  | unknown code => exact fun ha => absurd rfl ha
  | opened op =>
    simp only [answerFrame]
    rw [← isSome_answerOpcode (W := W) (R := R) (D := D) op payload]
    rcases h : answerOpcode op payload with _ | act <;> intro ha
    · exact absurd rfl ha
    · -- the opcode that reads the status asks for nothing
      have hop : op ≠ .status := by
        rintro rfl
        exact ha rfl
      exact (noteOpcode_concluded (serves_answerOpcode h _) hop).settle _ _ _
  | data op data =>
    intro ha
    simp only [answerFrame]
    obtain ⟨hop, -⟩ | ⟨act, hop, h⟩ :=
      answerOpcodeWithData_cases (W := W) (R := R) (D := D) op data
    · exact absurd (if_pos hop) ha
    · have hstatus : op ≠ .status := by
        rintro rfl
        cases hop
      simp only [h, hop]
      exact (noteOpcode_concluded (serves_answerOpcodeWithData h _) hstatus).settle _ _ _
  | line l =>
    simp only [answerFrame]
    rcases l.command with _ | command <;> intro ha
    · exact absurd rfl ha
    · have h := serves_answerLine command l { d with response := {}, pending }
      exact (noteLine_concluded h).settle _ _ _

/-- **A frame that is answered without an error did what it asks for**, and that succeeded. -/
theorem receive_ok {payload : Bytes} {d : Device W R D} {o : Operation}
    (ha : asked payload d = .ok (some o))
    (hc : (receive payload d).1.status.code = Error.successCode) :
    ∃ e, o.perform { d with response := {}, pending := (d.pending.decode payload).2 } = .ok () e ∧
      ∃ pending response status, (receive payload d).2 = { e with pending, response, status } := by
  have hne : asked payload d ≠ .ok none := fun hn => nomatch ha.symm.trans hn
  have h := concluded_receive hne
  rw [ha] at h
  exact h.ok_of_code hc

end StorageAdapter
