import Mathlib.Data.List.Induction
import StorageAdapter.Proofs.Verdict

/-! # The status along a run

The status of a device is that of the last reply (`status_run`): operations that are called
directly, resets of the bus and the world outside have no part in it. A frame that runs no command
(`Device.RunsNothing`) tells the same status again, and every other frame notes its own verdict, but
for the opcode that reads the status (`status_tells_last_command`). -/

namespace StorageAdapter

open StorageAdapter.Action StorageAdapter.Device

variable {W R D : Type} [HostStorage W R] [SettingsStore W] [KeyStorage W] [DriveBay D]

/-! ### Frames that run nothing -/

/-- **Frames that run no command**: empty ones, and with no command pending those of opcodes that
need data, and lines with a keyword that nobody knows. -/
def Device.RunsNothing (payload : Bytes) (d : Device W R D) : Prop :=
  payload = [] ∨ d.pending = .idle ∧
    ((∃ op, op.needsNoData = false ∧ payload = ClientCommand.openFrame op) ∨
      (∀ code, payload ≠ [Opcode.marker, code]) ∧ (Line.parse payload).command = none)

/-- There is no verdict on a frame that runs no command, and there is one on all others. -/
theorem verdict_eq_none_iff {payload : Bytes} {d : Device W R D} (hd : d.pending.Resting) :
    d.verdict payload = none ↔ d.RunsNothing payload := by
  rw [verdict_eq]
  unfold answerVerdict RunsNothing
  by_cases hp : payload = []
  · subst hp
    exact ⟨fun _ => .inl rfl, fun _ => rfl⟩
  simp only [hp, false_or]
  obtain hidle | ⟨op, hop, hwaiting⟩ := hd
  · rw [hidle]
    simp only [true_and]
    obtain ⟨hl, hdecode⟩ | ⟨code, hc, rfl, hdecode⟩ | ⟨op, rfl, hdecode⟩ := decode_idle_cases hp <;>
      rw [hdecode]
    · simp only [Option.map_eq_none_iff]
      exact ⟨fun h => .inr ⟨hl, h⟩, fun h => h.elim (fun ⟨op, _, h⟩ => absurd h (hl op.code)) (·.2)⟩
    · refine ⟨nofun, fun h => h.elim (fun ⟨op, _, h⟩ => ?_) fun h => absurd rfl (h.1 code)⟩
      exact nomatch hc.symm.trans (marker_eq_openFrame_iff.1 h)
    · have hsome := isSome_answerOpcode (W := W) (R := R) (D := D) op (ClientCommand.openFrame op)
      simp only [Option.map_eq_none_iff]
      rw [← Option.not_isSome_iff_eq_none, hsome, Bool.not_eq_true]
      refine ⟨fun h => .inl ⟨op, h, rfl⟩, fun h => h.elim (fun ⟨op', hop', h⟩ => ?_) fun h =>
        absurd rfl (h.1 op.code)⟩
      have hsame : some op = some op' := (ofByte?_code op).symm.trans (marker_eq_openFrame_iff.1 h)
      rw [Option.some.inj hsame]
      exact hop'
  · have hsome := isSome_answerOpcodeWithData (W := W) (R := R) (D := D) op payload
    rw [hwaiting, decode_data hp]
    simp only [Option.map_eq_none_iff, reduceCtorEq, false_and, iff_false]
    rw [← Option.not_isSome_iff_eq_none, hsome, hop]
    exact nofun

/-! ### Along a run -/

/-- What a move is answered with, if it is a frame. -/
def Move.reply? (d : Device W R D) : Move W D → Option Reply
  | .frame payload => some (receive payload d).1
  | .resetBus | .call _ | .outside _ _ _ => none

/-- The replies of a run, in turn. -/
def Device.replies (d : Device W R D) (moves : List (Move W D)) : List Reply :=
  d.trace Move.reply? moves

theorem notes_perform (o : Operation) (d : Device W R D) :
    (o.perform.after d).pending = d.pending ∧ (o.perform.after d).status = d.status := by
  have h : o.perform.after d = withNotes d.pending d.response d.status (o.perform.after d) :=
    (perform_withNotes o).after_eq d
  rw [h]
  exact ⟨rfl, rfl⟩

/-- Between frames, no opcode is pending that was not tried. -/
theorem resting_move {d : Device W R D} (h : d.pending.Resting) (m : Move W D) :
    (d.move m).pending.Resting := by
  cases m with
  | frame payload =>
    show (receive payload d).2.pending.Resting
    rw [pending_receive]
    exact resting_next h payload
  | resetBus => exact .inl rfl
  | call o =>
    show (o.perform.after d).pending.Resting
    rw [(notes_perform o d).1]
    exact h
  | outside storage drives radio => exact h

theorem resting_run_moves {d : Device W R D} (h : d.pending.Resting) (moves : List (Move W D)) :
    (d.run moves).pending.Resting :=
  List.foldlRecOn moves Device.move (motive := fun e : Device W R D => e.pending.Resting) h
    fun _ he m _ => resting_move he m

/-- A move that is answered leaves the status that its reply tells, and any other leaves the one
before. -/
theorem status_move (d : Device W R D) (m : Move W D) :
    (d.move m).status = ((m.reply? d).map Reply.status).getD d.status := by
  cases m with
  | frame payload => rfl
  | resetBus => rfl
  | call o => exact (notes_perform o d).2
  | outside storage drives radio => rfl

/-- **After a run, the status is that of its last reply.** -/
theorem status_run (d : Device W R D) (moves : List (Move W D)) :
    (d.run moves).status = ((d.replies moves).getLast?.map Reply.status).getD d.status := by
  induction moves using List.reverseRecOn with
  | nil => rfl
  | append_singleton moves m ih =>
    unfold Device.replies at *
    rw [run_concat, status_move, trace_concat]
    rcases m.reply? (d.run moves) with _ | reply
    · rw [Option.toList_none, List.append_nil]
      exact ih
    · rw [Option.toList_some, List.getLast?_append]
      rfl

/-- **The status is about the last command.** After any run of a device that has started, let a
frame come. If it runs no command or is the opcode that reads the status, the reply tells the code
and the message of the reply before, whatever came in between; before any reply there are those of
success. Whoever reads the status, by opcode or by line, is answered with the status of the reply
before. All other frames run a command, and the reply tells how that ended; unless the line asks for
the status, the command would end the same after any other status. -/
theorem status_tells_last_command (storage : W) (drives : D) (radio : Radio) (board : Board)
    (digester : Digester) (moves : List (Move W D)) (payload : Bytes) :
    let start : Device W R D := Device.start storage drives radio board digester
    let last : Status := ((start.replies moves).getLast?.map Reply.status).getD {}
    let d := start.run moves
    let reply := (receive payload d).1
    let readsStatus := d.pending = .idle ∧ payload = ClientCommand.openFrame .status
    (d.verdict payload = none ↔ d.RunsNothing payload) ∧
    (d.RunsNothing payload ∨ readsStatus →
      reply.status.code = last.code ∧ reply.status.message = last.message) ∧
    (readsStatus → reply.data = last.toBytes) ∧
    (d.pending = .idle → (ClientCommand.line payload).WellFormed →
      (Line.parse payload).command = some .status → reply.data = Text.encode last.toLine) ∧
    (∀ v, d.verdict payload = some v → ¬readsStatus → match v with
      | .ok answer => reply.status.code = 0 ∧ reply.status.message = answer.message
      | .error e => reply.status.code = e.code ∧ reply.status.message = e.message) ∧
    (¬readsStatus → (d.pending = .idle → (Line.parse payload).command ≠ some .status) →
      ∀ status, ({ d with status } : Device W R D).verdict payload = d.verdict payload) := by
  intro start last d reply readsStatus
  have hlast : d.status = last := status_run start moves
  have hrest : d.pending.Resting := resting_run_moves (.inl rfl) moves
  have hdata : reply.data = (d.verdict payload).data reply.format := data_receive payload d
  have hnoted : ¬readsStatus →
      reply.status = { (d.verdict payload).status d.status with
        connected := (d.handled payload).2.radio.connected } := fun hs =>
    status_receive (mt decode_eq_opened_iff.1 hs)
  refine ⟨verdict_eq_none_iff hrest, fun h => ?_, fun hs => ?_, fun hidle hl hc => ?_,
    fun v hv hs => ?_, fun hs hline status => ?_⟩
  · by_cases hs : readsStatus
    · have hkept := (handled_status (decode_eq_opened_iff.2 hs)).2
      rw [← hlast, ← hkept]
      exact ⟨rfl, rfl⟩
    · rw [hnoted hs, (verdict_eq_none_iff hrest).2 (h.resolve_right hs), ← hlast]
      exact ⟨rfl, rfl⟩
  · rw [hdata, (handled_status (decode_eq_opened_iff.2 hs)).1, ← hlast, Verdict.data_ok]
  · have hv : d.verdict payload = some (.ok (.reply d.status.toLine)) := by
      rw [verdict_eq, hidle, decode_line hl.1 hl.2]
      show (Line.parse payload).command.map (fun c => (answerLine c (.parse payload)).outcome d) = _
      rw [hc]
      rfl
    rw [hdata, hv, ← hlast, Verdict.data_ok, Answer.reply]
  · rw [hnoted hs, hv]
    rcases v with e | answer <;> exact ⟨rfl, rfl⟩
  · refine verdict_withStatus (mt decode_eq_opened_iff.1 hs) (fun l hl => ?_) status
    obtain ⟨hidle, rfl⟩ := decode_eq_line hl
    exact hline hidle

end StorageAdapter
