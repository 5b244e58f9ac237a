import StorageAdapter.Proofs.Cursor
import StorageAdapter.Proofs.ListingReplies

/-! # A listing that cannot be opened

Opening a listing closes the one that is open before anything of the new one is looked at, but for
its slot number: a number out of range is refused at once, and then the old listing stays open. So a
failure leaves no listing open if and only if the slot number is in range or none was open
(`failed_opening_closes_cursor_iff`). A cursor that is closed stays closed until a listing is opened
(`closed_run`), and until then everything that reads the cursor fails (`perform_closed`,
`tells_closed`). -/

namespace StorageAdapter

open StorageAdapter.Action StorageAdapter.Device

variable {W R D : Type}

/-! ### A cursor that is closed -/

/-- No listing is open under the cursor. -/
def Device.Closed (d : Device W R D) : Prop := d.rack.cursor.openOn = none

/-- Whether the operation reads the listing under the cursor. -/
def Operation.readsCursor : Operation → Bool
  | readDirectory _ _ | directoryPosition | seekDirectory _ => true
  | _ => false

theorem Rack.reading_closed {r : Rack W R D} (h : r.cursor.openOn = none) :
    reading r = .error .noDirectory r := by
  unfold reading
  rw [bind_apply, get_apply]
  simp only [h]
  rfl

section Reading

variable {d : Device W R D} (h : d.Closed)
include h

theorem onRack_reading_closed {α : Type} {f : Fin 8 × Mounted R → Action (Rack W R D) α} :
    onRack (Rack.reading >>= f) d = .error .noDirectory d := by
  refine onRack_error (r := d.rack) ?_
  rw [bind_apply, Rack.reading_closed h]

/-- **What reads a closed cursor fails** and leaves the device alone. -/
theorem perform_closed [HostStorage W R] [SettingsStore W] [KeyStorage W] [DriveBay D]
    {o : Operation} (ho : o.readsCursor) : o.perform d = .error .noDirectory d := by
  cases o with
  | readDirectory limit options =>
    show (onRack (Rack.readDirectory limit options) >>= fun _ => pure ()) d = _
    rw [bind_apply, Rack.readDirectory, onRack_reading_closed h]
  | directoryPosition =>
    show (onRack Rack.directoryPosition >>= fun _ => pure ()) d = _
    rw [bind_apply, Rack.directoryPosition, onRack_reading_closed h]
  | seekDirectory position => exact onRack_reading_closed h
  | _ => cases ho

end Reading

/-- The reply to an opcode that fails has the error. -/
theorem tells_noteOpcode_error {op : Opcode} {act : Action (Device W R D) Bytes}
    {d e : Device W R D} {err : Error} (hact : act d = .error err e) :
    ((noteOpcode op act d).settle .raw).1.Tells (.error err) := by
  unfold noteOpcode
  simp only [hact]
  exact ⟨rfl, rfl⟩

section Replies

variable [HostStorage W R] [SettingsStore W] [KeyStorage W] [DriveBay D]

/-- An operation that fails is told as its error, unless the command tells something, too. -/
theorem tells_of_error {payload : Bytes} {d e : Device W R D} {o : Operation} {err : Error}
    (ha : asked payload d = .ok (some o)) (ho : Request.tells (.ok (some o)) = false)
    (h : o.perform d = .error err e) : (receive payload d).1.Tells (.error err) := by
  cases concluded_of_asked ha nofun with
  | ok e' hserve => exact nomatch h.symm.trans hserve
  | error err' hcode hmessage hserve =>
    obtain ⟨e', he'⟩ := hserve ho
    cases h.symm.trans he'
    exact ⟨hcode, hmessage⟩

/-- **A frame that reads a closed cursor** is told that no listing is open. -/
theorem tells_closed {payload : Bytes} {d : Device W R D} (h : d.Closed) {o : Operation}
    (ho : o.readsCursor) (ha : asked payload d = .ok (some o)) :
    (receive payload d).1.Tells (.error .noDirectory) := by
  cases o with
  | readDirectory | seekDirectory => exact tells_of_error ha rfl (perform_closed h ho)
  | directoryPosition =>
    -- a line may fail to tell a position that was found, so the command itself is looked at
    obtain ⟨p, ⟨op, bytes, act, hr, hact, hreply⟩ | ⟨command, l, hr, hreply⟩⟩ :=
      answered_of_asked ha <;> rw [hreply]
    all_goals
      have hclosed : (d.withNotes p {} d.status).Closed := h
      have htell : onRack Rack.directoryPosition (d.withNotes p {} d.status) =
        .error .noDirectory (d.withNotes p {} d.status) := onRack_reading_closed hclosed
    · obtain rfl := Opcode.eq_getDirectoryPosition hr
      obtain hact | hact := hact <;> cases hact
      refine tells_noteOpcode_error (e := d.withNotes p {} d.status) ?_
      rw [bind_apply, htell]
    · obtain rfl := Command.eq_getDirPos hr
      refine tells_noteLine_error (e := d.withNotes p {} d.status) ?_
      show directoryPositionAnswer _ = _
      unfold directoryPositionAnswer
      rw [bind_apply, htell]
  | _ => cases ho

end Replies

/-! ### A failure to open -/

/-- **A listing cannot be opened**: either the slot number is out of range and nothing happens, or
there is no listing open then. -/
theorem Rack.openDirectory_error [HostStorage W R] {slot : UInt8} {path : String}
    {pattern : Option String} {r s : Rack W R D} {e : Error}
    (h : openDirectory slot path pattern r = .error e s) :
    8 ≤ slot.toNat ∧ e = .slotRange .host slot ∧ s = r ∨
      slot.toNat < 8 ∧ s.cursor.openOn = none := by
  by_cases hs : slot.toNat < 8
  · refine .inr ⟨hs, ?_⟩
    have hi : hostIndex slot = .ok ⟨slot.toNat, hs⟩ := slotIndex_of_lt .host hs
    obtain ⟨e, he, -⟩ | ⟨e, ho⟩ | ⟨e, i, m, -, ho⟩ | ⟨i, m, entries, -, -, -, ho⟩ :=
      openDirectory_cases slot path pattern r
    · exact nomatch he.symm.trans hi
    all_goals cases h.symm.trans ho
    · exact r.openOn_readyToOpen
    · exact r.openOn_readyToOpen
  · have hs : 8 ≤ slot.toNat := Nat.le_of_not_lt hs
    have hi : hostIndex slot = .error (.slotRange .host slot) := slotIndex_of_le .host hs
    have ho : openDirectory slot path pattern r = .error (.slotRange .host slot) r := by
      unfold openDirectory
      rw [hi]
      rfl
    cases h.symm.trans ho
    exact .inl ⟨hs, rfl, rfl⟩

/-! ### Until a listing is opened -/

section Run

variable [HostStorage W R] [SettingsStore W] [KeyStorage W] [DriveBay D]

theorem upheld_closed : Upheld (Device.Closed : Device W R D → Prop) Device.Closed where
  weaken h := h
  before := ⟨fun h _ => h, fun h _ _ _ => h⟩
  during := ⟨fun h _ => h, fun h _ _ _ => h⟩
  aside h _ _ := h
  digest h _ := h
  key h _ _ := h
  fill {d} h := (congrArg Cursor.openOn (Rack.fill_reached d.settings d.rack).2).trans h
  unmount h _ := h
  close {d} _ := d.rack.openOn_closeDirectory
  follow _ := ⟨fun _ _ => rfl, fun h _ _ _ _ => h, fun h _ => h⟩
  rename {d} h i name := by
    obtain ⟨w, -, hr⟩ := Rack.rename_eq i name d.rack
    unfold Device.Closed Device.renameHost Rack.dropCursor
    rw [rack_setRack, hr]
    split
    · rfl
    · exact h
  load h _ _ _ := h
  empty h _ := h
  assign {d} h i filename host mode := by
    obtain ⟨drives, hr⟩ := Rack.assign_eq i (.assigned filename host mode) d.rack
    unfold Device.Closed
    rw [rack_setRack, hr]
    exact h
  wifi h _ := h
  boot h _ _ := h
  switch h _ _ := h
  save h := by
    rw [after_save]
    exact h

omit [SettingsStore W] [KeyStorage W] [DriveBay D] in
theorem Rack.opening?_of_ok {slot : UInt8} {path : String} {pattern : Option String}
    {r s : Rack W R D} (h : openDirectory slot path pattern r = .ok () s) : s.opening?.isSome := by
  obtain ⟨e, -, ho⟩ | ⟨e, ho⟩ | ⟨e, i, m, -, ho⟩ | ⟨i, m, entries, -, -, -, ho⟩ :=
    openDirectory_cases slot path pattern r <;> cases h.symm.trans ho
  rw [opening?_openedOn]
  rfl

/-- **One move keeps the cursor closed** unless it opens a listing. -/
theorem closed_move {d : Device W R D} (h : d.Closed) {m : Move W D} (hm : m.opening? d = none) :
    (d.move m).Closed := by
  by_cases hr : ∃ slot path pattern, m.request d = .ok (some (.openDirectory slot path pattern))
  · obtain ⟨slot, path, pattern, hr⟩ := hr
    have hrack := (Device.move_opening hr).1
    unfold Device.Closed
    rcases ho : Rack.openDirectory slot path pattern d.rack with ⟨_, s⟩ | ⟨e, s⟩
    · have hopens := Move.opening?_of_ok hr ho
      have hsome := Rack.opening?_of_ok ho
      rw [← hopens, hm] at hsome
      cases hsome
    · rw [hrack, after_of_error ho]
      obtain ⟨-, -, rfl⟩ | ⟨-, hs⟩ := Rack.openDirectory_error ho
      · exact h
      · exact hs
  · exact upheld_closed.move (fun h _ _ _ => h) m
      (fun slot path pattern h => absurd ⟨slot, path, pattern, h⟩ hr)
      (fun f g k hm h => by subst hm; exact h) h

/-- **A run keeps the cursor closed** if no move of it opens a listing. -/
theorem closed_run {d : Device W R D} (h : d.Closed) {moves : List (Move W D)}
    (hm : d.trace Move.opening? moves = []) : (d.run moves).Closed := by
  induction moves generalizing d with
  | nil => exact h
  | cons m moves ih =>
    obtain ⟨hfirst, hrest⟩ := List.append_eq_nil_iff.1 hm
    exact ih (closed_move h (Option.toList_eq_nil_iff.1 hfirst)) hrest

/-- **A failure to open a listing closes the cursor** if and only if the slot number is in range or
the cursor was closed before; if not, nothing happens. Once the cursor is closed, everything that
reads it fails, whether it is called directly or comes in a frame, until a move opens a listing. -/
theorem failed_opening_closes_cursor_iff {d : Device W R D} {m : Move W D} {slot : UInt8}
    {path : String} {pattern : Option String} {e : Error} {r : Rack W R D}
    (hm : m.request d = .ok (some (.openDirectory slot path pattern)))
    (hfail : Rack.openDirectory slot path pattern d.rack = .error e r) :
    ((d.move m).Closed ↔ slot.toNat < 8 ∨ d.Closed) ∧
      (8 ≤ slot.toNat → e = .slotRange .host slot ∧ (d.move m).rack = d.rack) ∧
      ((d.move m).Closed → ∀ moves, (d.move m).trace Move.opening? moves = [] →
        let later := (d.move m).run moves
        later.Closed ∧ ∀ o : Operation, o.readsCursor →
          o.perform later = .error .noDirectory later ∧
            ∀ payload, asked payload later = .ok (some o) →
              (receive payload later).1.Tells (.error .noDirectory)) := by
  have hrack : (d.move m).rack = r := (Device.move_opening hm).1.trans (after_of_error hfail)
  refine ⟨?_, fun hs => ?_, fun hclosed moves hmoves => ?_⟩
  · unfold Device.Closed
    rw [hrack]
    obtain ⟨hs, -, rfl⟩ | ⟨hs, hc⟩ := Rack.openDirectory_error hfail
    · exact ⟨.inr, fun h => h.resolve_left (Nat.not_lt.2 hs)⟩
    · exact ⟨fun _ => .inl hs, fun _ => hc⟩
  · obtain ⟨-, he, hr⟩ | ⟨hs', -⟩ := Rack.openDirectory_error hfail
    · exact ⟨he, hrack.trans hr⟩
    · omega
  · intro later
    have hlater : later.Closed := closed_run hclosed hmoves
    exact ⟨hlater, fun o ho => ⟨perform_closed hlater ho, fun payload => tells_closed hlater ho⟩⟩

end Run

/-- A device in memory with the listing of the first host open, on which there is an image. -/
def browsingFirst : Memory.Adapter :=
  (Memory.Surroundings.start
    { storage := { hosts := ({} : Memory.Hosts).withFile "h" "/a.d64" 174848 0 } }).run
    [.call (.nameHost 0 "h"), .call (.mountHost 0), .call (.openDirectory 0 "/" none)]

/-- A directory that does not exist is asked for by a frame, and then for the position. -/
theorem failed_opening_closes_cursor_no_such_directory :
    let m : Move Memory.Storage Memory.Drives := .frame (Text.encode "OPENDIR:0,/none~")
    let d := browsingFirst.move m
    browsingFirst.rack.cursor.openOn = some 0 ∧ d.Closed ∧
      (receive (Text.encode "GETDIRPOS") d).1.Tells (.error .noDirectory) := by
  intro m d
  have hm : m.request browsingFirst = .ok (some (.openDirectory 0 "/none" (some ""))) := by
    decide +kernel
  have hfail : (Rack.openDirectory 0 "/none" (some "")).outcome browsingFirst.rack =
    .error .notListed := by decide +kernel
  obtain ⟨hiff, -, hlater⟩ := failed_opening_closes_cursor_iff hm (eq_error_of_outcome hfail)
  have hclosed : d.Closed := hiff.2 (.inl (by decide))
  refine ⟨by decide +kernel, hclosed, ?_⟩
  exact ((hlater hclosed [] rfl).2 .directoryPosition rfl).2 _ (by decide +kernel)

/-- A listing stays open although another one could not be opened: the slot number is out of
range. -/
theorem failed_opening_keeps_cursor :
    let d := browsingFirst.move (.call (.openDirectory 9 "/" none))
    (Operation.openDirectory 9 "/" none).perform.outcome browsingFirst =
        .error (.slotRange .host 9) ∧
      ¬d.Closed ∧ (Rack.readDirectory 32 0).outcome d.rack = .ok (Text.encode "a.d64") := by
  intro d
  unfold Device.Closed
  exact ⟨by decide +kernel, by decide +kernel, by decide +kernel⟩

end StorageAdapter
