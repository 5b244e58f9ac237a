import StorageAdapter.Proofs.Reading

/-! # What is told of a listing

A frame that asks for an entry or for the position may be an opcode, its data or a command line.
What it asks for tells what runs (`answered_of_asked`), so the reply tells what the reading yields
(`tells_readDirectory`) or where the listing is (`tells_directoryPosition`). -/

namespace StorageAdapter

open StorageAdapter.Action StorageAdapter.Device

variable {W R D : Type}

/-! ### Commands by what they ask for -/

theorem Opcode.eq_readDirEntry {op : Opcode} {data : Bytes} {limit options : UInt8}
    (h : op.request data = .ok (some (.readDirectory limit options))) :
    op = .readDirEntry ∧ byteAt data 0 = .ok limit ∧ byteAt data 1 = .ok options := by
  cases op <;> simp only [Opcode.request, bind_eq_ok_iff, pure, Except.pure, Except.ok.injEq,
    Option.some.injEq, reduceCtorEq, and_false, exists_false] at h
  case readDirEntry =>
    obtain ⟨a, ha, b, hb, he⟩ := h
    cases he
    exact ⟨rfl, ha, hb⟩
  all_goals split at h <;> cases h

theorem Opcode.eq_getDirectoryPosition {op : Opcode} {data : Bytes}
    (h : op.request data = .ok (some .directoryPosition)) : op = .getDirectoryPosition := by
  cases op <;> simp only [Opcode.request, bind_eq_ok_iff, pure, Except.pure, Except.ok.injEq,
    Option.some.injEq, reduceCtorEq, and_false, exists_false] at h
  case getDirectoryPosition => rfl
  all_goals split at h <;> cases h

theorem Command.eq_readDir {command : Command} {l : Line} {d : Device W R D}
    {limit options : UInt8}
    (h : command.request l d = .ok (some (.readDirectory limit options))) : command = .readDir := by
  cases command <;> simp only [Command.request, Line.filenameRequest, bind_eq_ok_iff, pure,
    Except.pure, Except.ok.injEq, Option.some.injEq, reduceCtorEq, and_false, exists_false] at h
  case readDir => rfl
  case writeAppKey =>
    obtain ⟨_, -, _, -, _, -, h⟩ := h
    split at h <;> cases h

theorem Command.eq_getDirPos {command : Command} {l : Line} {d : Device W R D}
    (h : command.request l d = .ok (some .directoryPosition)) : command = .getDirPos := by
  cases command <;> simp only [Command.request, Line.filenameRequest, bind_eq_ok_iff, pure,
    Except.pure, Except.ok.injEq, Option.some.injEq, reduceCtorEq, and_false, exists_false] at h
  case getDirPos => rfl
  case readDir =>
    obtain ⟨_, -, _, -, h⟩ := h
    split at h <;> simp only [bind_eq_ok_iff, Except.ok.injEq, Option.some.injEq, reduceCtorEq,
      and_false, exists_false] at h
  case writeAppKey =>
    obtain ⟨_, -, _, -, _, -, h⟩ := h
    split at h <;> cases h

/-- A line that asks for an entry reads it with what it asks for. -/
theorem readEntryAnswer_eq {l : Line} {d : Device W R D} {limit options : UInt8}
    (h : Command.readDir.request l d = .ok (some (.readDirectory limit options))) :
    (readEntryAnswer l : Action (Device W R D) Answer) =
      (do return { data := ← onRack (Rack.readDirectory limit options), message := "" }) := by
  simp only [Command.request, bind_eq_ok_iff] at h
  obtain ⟨token, htoken, length, hlength, h⟩ := h
  unfold readEntryAnswer
  rw [htoken, lift_ok_bind, hlength, lift_ok_bind]
  cases hparam : l.param 1 with
  | some token =>
    simp only [hparam, bind_eq_ok_iff] at h
    obtain ⟨flags, hflags, h⟩ := h
    cases h
    simp only [hflags, lift_ok_bind]
  | none =>
    rw [hparam] at h
    cases h
    rfl

/-! ### Replies -/

/-- The reply to an opcode that succeeds has the data. -/
theorem tells_noteOpcode {op : Opcode} (hop : op ≠ .status)
    {act : Action (Device W R D) Bytes} {d e : Device W R D} {data : Bytes}
    (hact : act d = .ok data e) (he : e.response = {}) :
    ((noteOpcode op act d).settle .raw).1.Tells (.ok data) := by
  unfold noteOpcode
  simp only [hact, he, if_neg hop]
  exact ⟨rfl, rfl⟩

/-- The reply to a line that succeeds has the data. -/
theorem tells_noteLine {act : Action (Device W R D) Answer} {d e : Device W R D}
    {answer : Answer} (hact : act d = .ok answer e) (he : e.response = {}) :
    ((noteLine act d).settle .basic).1.Tells (.ok answer.data) := by
  unfold noteLine
  simp only [hact, he]
  exact ⟨rfl, rfl⟩

/-- The reply to a line that fails has the error. -/
theorem tells_noteLine_error {act : Action (Device W R D) Answer} {d e : Device W R D}
    {err : Error} (hact : act d = .error err e) :
    ((noteLine act d).settle .basic).1.Tells (.error err) := by
  unfold noteLine
  simp only [hact]
  exact ⟨rfl, rfl⟩

/-- The reply tells a position: in bytes, or in digits, where no position is an error. -/
def Reply.TellsPosition (r : Reply) (position : UInt16) : Prop :=
  match r.format with
  | .raw => r.Tells (.ok (Bytes.ofWord position))
  | .basic =>
    r.Tells (if position = Listing.noPosition then .error (.io "invalid directory position")
      else .ok (Text.encode (toString position.toNat)))

variable [HostStorage W R] [SettingsStore W] [KeyStorage W] [DriveBay D]

/-- **A frame that asks for an operation** is answered as the opcode or the line is that asks
for it. -/
theorem answered_of_asked {payload : Bytes} {d : Device W R D} {o : Operation}
    (ha : asked payload d = .ok (some o)) :
    ∃ p, let e := d.withNotes p {} d.status
      (∃ op data act, op.request data = .ok (some o) ∧
        (answerOpcode op data = some act ∨ answerOpcodeWithData op data = some act) ∧
        (receive payload d).1 = ((noteOpcode op act e).settle .raw).1) ∨
      ∃ command l, command.request l d = .ok (some o) ∧
        (receive payload d).1 = ((noteLine (answerLine command l) e).settle .basic).1 := by
  revert ha
  rw [receive_eq_answerFrame]
  unfold asked
  rcases d.pending.decode payload with ⟨frame, pending⟩
  cases frame with
  | empty | unknown =>
    intro ha
    cases ha
  | opened op =>
    simp only [answerFrame]
    rw [← isSome_answerOpcode (W := W) (R := R) (D := D) op payload]
    rcases h : answerOpcode op payload with _ | act
    · intro ha
      cases ha
    · exact fun ha => ⟨pending, .inl ⟨op, payload, act, ha, .inl h, rfl⟩⟩
  | data op data =>
    simp only [answerFrame]
    obtain ⟨hop, -⟩ | ⟨act, hop, h⟩ :=
      answerOpcodeWithData_cases (W := W) (R := R) (D := D) op data <;> rw [hop]
    · intro ha
      cases ha
    · intro ha
      refine ⟨pending, .inl ⟨op, data, act, ha, .inr h, ?_⟩⟩
      simp only [h]
      rfl
  | line l =>
    simp only [answerFrame]
    rcases l.command with _ | command
    · intro ha
      cases ha
    · exact fun ha => ⟨pending, .inr ⟨command, l, ha, rfl⟩⟩

/-- **What is read** is told to both front ends. -/
theorem tells_readDirectory {payload : Bytes} {d : Device W R D} {limit options : UInt8}
    (ha : asked payload d = .ok (some (.readDirectory limit options))) {data : Bytes}
    {r : Rack W R D} (h : Rack.readDirectory limit options d.rack = .ok data r) :
    (receive payload d).1.Tells (.ok data) := by
  obtain ⟨p, ⟨op, bytes, act, hr, hact, hreply⟩ | ⟨command, l, hr, hreply⟩⟩ :=
    answered_of_asked ha <;> rw [hreply]
  all_goals
    have hread : onRack (Rack.readDirectory limit options) (d.withNotes p {} d.status) =
      .ok data ((d.withNotes p {} d.status).setRack r) := onRack_apply h
  · obtain ⟨rfl, hlimit, hoptions⟩ := Opcode.eq_readDirEntry hr
    obtain hact | hact := hact <;> cases hact
    refine tells_noteOpcode (e := (d.withNotes p {} d.status).setRack r) (by decide) ?_ rfl
    rw [hlimit, lift_ok_bind, hoptions, lift_ok_bind]
    exact hread
  · obtain rfl := Command.eq_readDir hr
    have hrun : answerLine .readDir l (d.withNotes p {} d.status) =
        .ok { data, message := "" } ((d.withNotes p {} d.status).setRack r) := by
      show readEntryAnswer l _ = _
      rw [readEntryAnswer_eq hr, bind_apply, hread]
      rfl
    exact tells_noteLine hrun rfl

/-- **The position** is told to both front ends. -/
theorem tells_directoryPosition {payload : Bytes} {d : Device W R D}
    (ha : asked payload d = .ok (some .directoryPosition)) {position : UInt16} {r : Rack W R D}
    (h : Rack.directoryPosition d.rack = .ok position r) :
    (receive payload d).1.TellsPosition position := by
  obtain ⟨p, ⟨op, bytes, act, hr, hact, hreply⟩ | ⟨command, l, hr, hreply⟩⟩ :=
    answered_of_asked ha <;> rw [hreply]
  all_goals
    have htell : onRack Rack.directoryPosition (d.withNotes p {} d.status) =
      .ok position ((d.withNotes p {} d.status).setRack r) := onRack_apply h
  · obtain rfl := Opcode.eq_getDirectoryPosition hr
    obtain hact | hact := hact <;> cases hact
    refine tells_noteOpcode (e := (d.withNotes p {} d.status).setRack r) (by decide) ?_ rfl
    rw [bind_apply, htell]
    rfl
  · obtain rfl := Command.eq_getDirPos hr
    show Reply.Tells _ (if _ then _ else _)
    have hrun : answerLine .getDirPos l (d.withNotes p {} d.status) =
        (do
          if position = Listing.noPosition then throw (.io "invalid directory position")
          return .text (toString position.toNat) : Action (Device W R D) Answer)
          ((d.withNotes p {} d.status).setRack r) := by
      show directoryPositionAnswer _ = _
      unfold directoryPositionAnswer
      rw [bind_apply, htell]
    split at hrun
    · next hp =>
      rw [if_pos hp]
      exact tells_noteLine_error hrun
    · next hp =>
      rw [if_neg hp]
      exact tells_noteLine hrun rfl

/-- **A frame that asks for an entry** is told the one at the place of the listing. -/
theorem Rack.Reads.tells_entry {i : Fin 8} {entries : List DirectoryEntry} {k : Nat}
    {d : Device W R D} (h : d.rack.Reads i entries k) {payload : Bytes} {limit options : UInt8}
    (ha : asked payload d = .ok (some (.readDirectory limit options))) :
    (receive payload d).1.Tells
      (.ok ((entries[k]?.map (·.format limit options)).getD DirectoryEntry.endMark)) := by
  obtain ⟨s, hs, -, -⟩ := h.readDirectory limit options
  exact tells_readDirectory ha hs

/-- **A frame that asks for the position** is told the one that the host tells. -/
theorem Rack.Reads.tells_position {i : Fin 8} {entries : List DirectoryEntry} {k : Nat}
    {d : Device W R D} (h : d.rack.Reads i entries k) {payload : Bytes}
    (ha : asked payload d = .ok (some .directoryPosition)) :
    (receive payload d).1.TellsPosition (HostStorage.position d.rack.storage k) :=
  tells_directoryPosition ha h.directoryPosition

/-- Telling the position leaves the listing as it is. -/
theorem Rack.Reads.rack_told {i : Fin 8} {entries : List DirectoryEntry} {k : Nat}
    {d : Device W R D} (h : d.rack.Reads i entries k) {payload : Bytes}
    (ha : asked payload d = .ok (some .directoryPosition)) :
    (receive payload d).2.rack = d.rack := by
  have hmove : (d.move (.frame payload)).rack = _ := Device.rack_move (m := .frame payload) ha
  refine hmove.trans ?_
  unfold Operation.perform onRack
  rw [after_bind_pure, after_on, after_of_ok h.directoryPosition]

/-- **Seeking succeeds** if the host can do it and there is such a place. -/
theorem Rack.Reads.succeeds_seek {i : Fin 8} {entries : List DirectoryEntry} {k : Nat}
    {d : Device W R D} (h : d.rack.Reads i entries k) {m : Move W D} {position : UInt16}
    (hm : m.request d = .ok (some (.seekDirectory position)))
    (hs : HostStorage.canSeek d.rack.storage) (hp : position.toNat ≤ entries.length) :
    m.succeeds d := by
  have hseek := h.seekDirectory position
  rw [if_pos ⟨hs, hp⟩] at hseek
  obtain ⟨s, hs, -⟩ := hseek
  exact (succeeds_iff hm rfl).2 ⟨_, onRack_apply hs⟩

/-! ### Topmost directories -/

section Top

variable {d : Device W R D} {entries : List DirectoryEntry}

theorem pending_call (d : Device W R D) (o : Operation) :
    (d.move (.call o)).pending = d.pending := pending_serve (.ok (some o)) d

/-- The move that opens the topmost directory of the host in the first slot. -/
def openingTop : Move W D := .call (.openDirectory 0 "/" none)

/-- A host that is mounted, with the cursor closed, and what is in its topmost directory. -/
structure Device.ReadyToList (d : Device W R D) (entries : List DirectoryEntry) : Prop where
  closed : d.rack.cursor.openOn = none
  idle : d.pending = .idle
  lists : ∃ mounted, (d.rack.hosts.get 0).mount = some mounted ∧
    HostStorage.list mounted.root "/" none d.rack.storage = .ok entries

/-- **Opening the topmost directory** opens it at the first of its entries. -/
theorem Device.ReadyToList.opened (h : d.ReadyToList entries) :
    Move.opening? d openingTop = some ⟨0, entries⟩ ∧
      (d.move openingTop).rack.storage = d.rack.storage ∧
      (d.move openingTop).pending = .idle := by
  obtain ⟨mounted, hm, hl⟩ := h.lists
  have hready : d.rack.readyToOpen = d.rack := by
    unfold Rack.readyToOpen
    rw [h.closed]
    rfl
  have ho : Rack.openDirectory 0 "/" none d.rack = .ok () _ :=
    Rack.openDirectory_ok (Rack.slotIndex_unit .host 0) (hready.symm ▸ hm) (hready.symm ▸ hl)
  refine ⟨?_, ?_, (pending_call d _).trans h.idle⟩
  · rw [Move.opening?_of_ok (m := openingTop) rfl ho]
    exact Rack.opening?_openedOn 0 mounted entries _
  · have hrack := (Device.move_opening (d := d) (m := openingTop) rfl).1
    rw [hrack]
    exact (Rack.SameButListings.openDirectory 0 "/" none d.rack).storage

end Top

theorem DirectoryEntry.inOrder_of_pairwise {entries : List DirectoryEntry}
    (h : entries.Pairwise fun a b => precedes a b) : inOrder entries = entries :=
  List.mergeSort_of_pairwise h

/-- A host in memory that is mounted, whose topmost directory was filled in the order of
listings. -/
theorem Memory.readyToList {D : Type} {d : Device Memory.Storage String D} {name : String}
    {entries : List DirectoryEntry} (hclosed : d.rack.cursor.openOn = none)
    (hidle : d.pending = .idle) (hmount : (d.rack.hosts.get 0).mount = some { root := name })
    (htop : Storage.topmost (d.rack.storage.hosts.tree name) = entries)
    (hsorted : entries.Pairwise fun a b => DirectoryEntry.precedes a b) :
    d.ReadyToList entries := by
  refine ⟨hclosed, hidle, _, hmount, (Storage.list_top _ _).trans ?_⟩
  rw [htop, DirectoryEntry.inOrder_of_pairwise hsorted]

end StorageAdapter
