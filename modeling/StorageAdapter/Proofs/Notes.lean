import StorageAdapter.Proofs.Run

/-! # Notes

No operation looks at the notes of a device (`perform_withNotes`), so a frame does to it what it
asks for and beyond that only changes the notes (`receive_eq`); what is pending then depends on the
frame and on what was pending before (`pending_receive`). Two devices that differ in the status
alone do so after any run (`SameButStatus.run`). -/

namespace StorageAdapter

open StorageAdapter.Action StorageAdapter.Device

variable {W R D : Type} [HostStorage W R] [SettingsStore W] [KeyStorage W] [DriveBay D]

/-! ### Frames -/

/-- An opcode is still noted as just opened when its action ends. -/
theorem pending_noteOpcode {op : Opcode} {frame : Bytes} {act : Action (Device W R D) Bytes}
    (h : answerOpcode op frame = some act) (d : Device W R D) :
    (noteOpcode op act d).pending = d.pending := by
  obtain ⟨response, status, hc⟩ := noteOpcode_after op act d
  rw [hc, (serves_answerOpcode h d).after_eq]
  exact pending_serve _ d

theorem pending_noteLine (command : Command) (l : Line) (d : Device W R D) :
    (noteLine (answerLine command l) d).pending = d.pending := by
  obtain ⟨response, status, hc⟩ := noteLine_after (answerLine command l) d
  rw [hc, (serves_answerLine command l d).after_eq]
  exact pending_serve _ d

/-- What is pending after a frame. -/
def Pending.next (pending : Pending) (payload : Bytes) : Pending :=
  match pending.decode payload with
  | (.opened op, p) => p.tried op.needsNoData
  | (.data op _, p) => p.offered (!op.needsNoData)
  | (.empty, p) | (.unknown _, p) | (.line _, p) => p

/-- What is pending after a frame depends on the frame and on what was pending before it, not on
how the command went. -/
theorem pending_receive (payload : Bytes) (d : Device W R D) :
    (receive payload d).2.pending = d.pending.next payload := by
  rw [receive_eq_answerFrame]
  unfold Pending.next
  rcases d.pending.decode payload with ⟨frame, pending⟩
  cases frame with
  | empty => rfl
  | unknown code => rfl
  | opened op =>
    simp only [answerFrame]
    rw [← isSome_answerOpcode (W := W) (R := R) (D := D) op payload]
    rcases h : answerOpcode op payload with _ | act
    · rfl
    · exact congrArg (Pending.tried · true)
        (pending_noteOpcode h { d with response := {}, pending })
  | data op data =>
    simp only [answerFrame]
    rw [← isSome_answerOpcodeWithData (W := W) (R := R) (D := D) op data]
    rcases answerOpcodeWithData op data with _ | act <;> rfl
  | line l =>
    simp only [answerFrame]
    rcases l.command with _ | command
    · rfl
    · exact pending_noteLine command l { d with response := {}, pending }

/-- **A frame does to the device what it asks for**, and beyond that changes only notes. -/
theorem receive_eq (payload : Bytes) (d : Device W R D) :
    ∃ status, (receive payload d).2 =
      withNotes (d.pending.next payload) {} status ((asked payload d).serve.after d) := by
  obtain ⟨pending, response, status, h⟩ := receive_served payload d
  have hserve : (asked payload d).serve.after
        { d with response := {}, pending := (d.pending.decode payload).2 } =
      withNotes (d.pending.decode payload).2 {} d.status ((asked payload d).serve.after d) :=
    (serve_withNotes _).after_eq d
  rw [hserve] at h
  obtain rfl : d.pending.next payload = pending := by
    rw [← pending_receive, h]
  obtain rfl : {} = response := congrArg Device.response h
  exact ⟨status, h⟩

/-- A move that asks for something does that, and beyond that changes only notes. -/
theorem move_served {m : Move W D} {d : Device W R D} {r : Request} (hm : m.request d = r)
    (hr : r ≠ .ok none) : ∃ pending response status,
      d.move m = withNotes pending response status (r.serve.after d) := by
  subst hm
  cases m with
  | frame payload =>
    obtain ⟨status, h⟩ := receive_eq payload d
    exact ⟨_, _, status, h⟩
  | call o => exact ⟨_, _, _, rfl⟩
  | resetBus => exact absurd rfl hr
  | outside storage drives radio => exact absurd rfl hr

/-- The request ends on a device in the same way whatever the notes. -/
theorem Concluded.of_withNotes {p : Pending} {q : Response} {s : Status} {r : Request}
    {d f : Device W R D} (h : Concluded r (withNotes p q s d) f) : Concluded r d f := by
  have hserve := serve_withNotes (p := p) (q := q) (s := s) r d
  cases h with
  | ok e hok hcode hleft =>
    rw [hserve] at hok
    rcases ht : r.serve d with ⟨u, t⟩ | ⟨err, t⟩ <;> rw [ht] at hok <;> cases hok
    obtain ⟨pending, response, status, rfl⟩ := hleft
    exact .ok t ht hcode ⟨pending, response, status, rfl⟩
  | error err hcode hmessage herr =>
    refine .error err hcode hmessage fun hr => ?_
    obtain ⟨e, he⟩ := herr hr
    rw [hserve] at he
    rcases ht : r.serve d with ⟨u, t⟩ | ⟨err', t⟩ <;> rw [ht] at he <;> cases he
    exact ⟨t, rfl⟩

/-- **A frame that asks for something notes how that ends on the device.** -/
theorem concluded_of_asked {payload : Bytes} {d : Device W R D} {r : Request}
    (ha : asked payload d = r) (hr : r ≠ .ok none) : Concluded r d (receive payload d).2 := by
  subst ha
  exact (concluded_receive hr).of_withNotes (q := {}) (s := d.status)

/-! ### Devices that differ in the status alone -/

/-- The devices differ in the status at most. -/
def SameButStatus (d e : Device W R D) : Prop := ∃ status, e = { d with status }

namespace SameButStatus

variable {d e : Device W R D}

omit [HostStorage W R] [SettingsStore W] [KeyStorage W] [DriveBay D] in
/-- What is asked for does not depend on the status. -/
theorem asked_eq (h : SameButStatus d e) (payload : Bytes) : asked payload e = asked payload d := by
  obtain ⟨status, rfl⟩ := h
  unfold asked
  rcases (d.pending.decode payload).1 with _ | op | code | l | ⟨op, data⟩
  · rfl
  · rfl
  · rfl
  · simp only
    rcases l.command with _ | command
    · rfl
    · -- the line that tells the status asks for nothing
      cases command <;> rfl
  · rfl

theorem serve (h : SameButStatus d e) (r : Request) :
    SameButStatus (r.serve.after d) (r.serve.after e) := by
  obtain ⟨status, rfl⟩ := h
  have hd : r.serve.after d = withNotes d.pending d.response d.status (r.serve.after d) :=
    (serve_withNotes r).after_eq d
  have he : r.serve.after { d with status } =
      withNotes d.pending d.response status (r.serve.after d) := (serve_withNotes r).after_eq d
  refine ⟨status, ?_⟩
  rw [he, hd]
  rfl

theorem frame (h : SameButStatus d e) (payload : Bytes) :
    SameButStatus (receive payload d).2 (receive payload e).2 := by
  obtain ⟨s, hd⟩ := receive_eq payload d
  obtain ⟨t, he⟩ := receive_eq payload e
  obtain ⟨u, hserve⟩ := h.serve (asked payload d)
  -- the frame sets the status of each device anew
  obtain ⟨status, rfl⟩ := id h
  rw [hd, he, h.asked_eq, hserve]
  exact ⟨t, rfl⟩

/-- **One move** leads devices that differ in the status alone to such devices. -/
theorem move (h : SameButStatus d e) (m : Move W D) : SameButStatus (d.move m) (e.move m) := by
  cases m with
  | frame payload => exact h.frame payload
  | resetBus =>
    obtain ⟨status, rfl⟩ := h
    exact ⟨status, rfl⟩
  | call o => exact h.serve (.ok (some o))
  | outside storage drives radio =>
    obtain ⟨status, rfl⟩ := h
    exact ⟨status, rfl⟩

/-- **A run** leads devices that differ in the status alone to such devices. -/
theorem run (h : SameButStatus d e) (moves : List (Move W D)) :
    SameButStatus (d.run moves) (e.run moves) := by
  induction moves generalizing d e with
  | nil => exact h
  | cons m moves ih => exact ih (h.move m)

end SameButStatus

end StorageAdapter
