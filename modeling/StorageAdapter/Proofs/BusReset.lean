import StorageAdapter.Memory.Adapter
import StorageAdapter.Proofs.KeySession
import StorageAdapter.Proofs.LastStatus
import StorageAdapter.Proofs.OneListing
import StorageAdapter.Proofs.Refill

/-! # Bus reset

A reset of the bus forgets what is pending, what waits and the sessions, and nothing else. Of the
app key it clears two fields only; the others stay, but as long as no key is open nobody can tell
(`SameButKey.run`: every command respects the relation). The listings are all gone, since one can be
open only where the cursor is. So of two devices that differ in sessions alone nobody can say after
a reset which was which (`resetBus_forgets_sessions`). -/

namespace StorageAdapter

open StorageAdapter.Action StorageAdapter.Device

variable {W R D : Type}

/-! ### Devices that differ in their sessions -/

/-- The root of the host, if it is mounted. -/
def HostSlot.root? (h : HostSlot R) : Option R := h.mount.map Mounted.root

/-- Without listings, a slot is its name, its kind and its root. -/
theorem HostSlot.eq_of_root {h k : HostSlot R} (hh : h.hasListing = false)
    (hk : k.hasListing = false) (hname : h.hostname = k.hostname) (hkind : h.kind = k.kind)
    (hroot : h.root? = k.root?) : h = k := by
  obtain ⟨name, kind, mount⟩ := h
  obtain ⟨name', kind', mount'⟩ := k
  obtain rfl : name = name' := hname
  obtain rfl : kind = kind' := hkind
  rcases mount with _ | ⟨root, listing⟩ <;> rcases mount' with _ | ⟨root', listing'⟩
  · rfl
  · cases hroot
  · cases hroot
  · obtain rfl : listing = none := Option.not_isSome_iff_eq_none.1 (Bool.eq_false_iff.1 hh)
    obtain rfl : listing' = none := Option.not_isSome_iff_eq_none.1 (Bool.eq_false_iff.1 hk)
    obtain rfl : root = root' := Option.some.inj hroot
    rfl

namespace Rack

variable {r s : Rack W R D}

/-- The racks differ in the cursor and the open listings at most; the same hosts are mounted. -/
structure SameMounts (r s : Rack W R D) : Prop extends SameButListings r s where
  root : ∀ i, (s.hosts.get i).root? = (r.hosts.get i).root?

theorem cursor_closeDirectory (r : Rack W R D) : r.closeDirectory.cursor = {} := by
  unfold Rack.closeDirectory
  rcases r.cursor.openOn with _ | i <;> rfl

theorem sameMounts_closeDirectory (r : Rack W R D) : SameMounts r r.closeDirectory where
  toSameButListings := (SameButListings.refl r).closeDirectory
  root i := by
    unfold Rack.closeDirectory
    rcases r.cursor.openOn with _ | j
    · rfl
    · show ((r.hosts.set j _).get i).root? = _
      rw [Slots.get_set]
      split
      · next hij =>
        rw [hij]
        unfold HostSlot.root?
        rcases (r.hosts.get j).mount with _ | m <;> rfl
      · rfl

/-- **Closing the cursor leaves nothing that racks with the same mounts could differ in.** -/
theorem SameMounts.closed_eq (h : SameMounts r s) (hr : r.OneListing) (hs : s.OneListing) :
    s.closeDirectory = r.closeDirectory := by
  have hr' := sameMounts_closeDirectory r
  have hs' := sameMounts_closeDirectory s
  have hhosts : s.closeDirectory.hosts = r.closeDirectory.hosts := by
    refine Slots.ext fun i => HostSlot.eq_of_root (hs.closeDirectory i) (hr.closeDirectory i)
      ?_ ?_ ?_
    · rw [hs'.hostname, h.hostname, hr'.hostname]
    · rw [hs'.kind, h.kind, hr'.kind]
    · rw [hs'.root, h.root, hr'.root]
  have hstorage : s.closeDirectory.storage = r.closeDirectory.storage := by
    rw [hs'.storage, h.storage, hr'.storage]
  have hdrives : s.closeDirectory.drives = r.closeDirectory.drives := by
    rw [hs'.drives, h.drives, hr'.drives]
  have hdisks : s.closeDirectory.disks = r.closeDirectory.disks := by
    rw [hs'.disks, h.disks, hr'.disks]
  have hcursor : s.closeDirectory.cursor = r.closeDirectory.cursor := by
    rw [cursor_closeDirectory, cursor_closeDirectory]
  rcases hsc : s.closeDirectory with ⟨storage, drives, hosts, disks, cursor⟩
  rw [hsc] at hhosts hstorage hdrives hdisks hcursor
  subst hhosts hstorage hdrives hdisks hcursor
  rfl

end Rack

/-- The devices differ at most in what a client leaves in the middle: the pending command, the data
that waits, the cursor, the open listings and the open key. -/
structure SameButSessions (d e : Device W R D) : Prop where
  rack : Rack.SameMounts d.rack e.rack
  radio : e.radio = d.radio
  board : e.board = d.board
  digester : e.digester = d.digester
  settings : e.settings = d.settings
  bootConfig : e.bootConfig = d.bootConfig
  bootDevice : e.bootDevice = d.bootDevice
  digest : e.digest = d.digest
  status : e.status = d.status

theorem sameButSessions_resetBus (d : Device W R D) : SameButSessions d d.resetBus where
  rack := Rack.sameMounts_closeDirectory d.rack
  radio := rfl
  board := rfl
  digester := rfl
  settings := rfl
  bootConfig := rfl
  bootDevice := rfl
  digest := rfl
  status := rfl

theorem SameButSessions.openKey {d e : Device W R D} (h : SameButSessions d e) (key : AppKey) :
    SameButSessions d { e with appKey := key } := { h with }

/-! ### Devices that differ in a closed key -/

/-- The keys are the same, or none of them is open. -/
def AppKey.Alike (k l : AppKey) : Prop := k = l ∨ k.creator = 0 ∧ l.creator = 0

/-- The devices are the same but for the fields of a key that is not open. -/
def SameButKey (d e : Device W R D) : Prop :=
  ∃ key, d.appKey.Alike key ∧ e = { d with appKey := key }

theorem SameButKey.refl (d : Device W R D) : SameButKey d d := ⟨d.appKey, .inl rfl, rfl⟩

/-- What no key has a part in respects the relation. -/
theorem respects_of_commutes {α : Type} {act : Action (Device W R D) α}
    (h : ∀ key, Commutes (Retouch.apply { key := fun _ => key }) act) :
    Respects SameButKey act := by
  rintro d _ ⟨key, hkey, rfl⟩
  -- the action leaves the key of the device, too
  have hkept := h d.appKey d
  have happly : Retouch.apply { key := fun _ => d.appKey } d = d := rfl
  have hother := h key d
  rw [happly] at hkept
  change act { d with appKey := key } = _ at hother
  rw [hother]
  rcases hact : act d with ⟨a, t⟩ | ⟨err, t⟩ <;> rw [hact] at hkept
  · obtain ⟨-, ht⟩ := EStateM.Result.ok.inj hkept
    have htkey : t.appKey = d.appKey := (congrArg Device.appKey ht).trans rfl
    exact .ok a ⟨key, htkey ▸ hkey, rfl⟩
  · obtain ⟨-, ht⟩ := EStateM.Result.error.inj hkept
    have htkey : t.appKey = d.appKey := (congrArg Device.appKey ht).trans rfl
    exact .error err ⟨key, htkey ▸ hkey, rfl⟩

theorem respects_setKey {g : AppKey → AppKey}
    (hg : ∀ {k l : AppKey}, k.Alike l → (g k).Alike (g l)) :
    Respects SameButKey (modify fun d => { d with appKey := g d.appKey } :
      Action (Device W R D) PUnit) := by
  refine respects_modify ?_
  rintro d _ ⟨key, hkey, rfl⟩
  exact ⟨g key, hg hkey, rfl⟩

theorem AppKey.alike_closed (k l : AppKey) : k.closed.Alike l.closed :=
  .inr ⟨k.creator_closed, l.creator_closed⟩

/-- **After a reset, only the fields of a closed key are left to differ in.** -/
theorem SameButSessions.resetBus {d e : Device W R D} (h : SameButSessions d e)
    (hd : d.rack.OneListing) (he : e.rack.OneListing) : SameButKey d.resetBus e.resetBus := by
  refine ⟨e.appKey.closed, AppKey.alike_closed _ _, ?_⟩
  unfold Device.resetBus
  rw [h.rack.closed_eq hd he, h.radio, h.board, h.digester, h.settings, h.bootConfig, h.bootDevice,
    h.digest, h.status]

variable [KeyStorage W]

/-- Without an open key a write is refused, whatever the rest of the key. -/
theorem write_of_creator_eq_zero {k : AppKey} (h : k.creator = 0) (data : Bytes) (card : W) :
    KeySession.write data ⟨k, card⟩ =
      .error (.parameter "creator information missing") ⟨k.closed, card⟩ := by
  unfold KeySession.write KeySession.writeFile
  simp only [bind_apply, get_apply, modify_apply, Action.on, h, true_or, if_true, throw_apply]

theorem respects_writeKey (data : Bytes) : Respects SameButKey
    (onKeySession (KeySession.write data) : Action (Device W R D) Nat) := by
  rintro d _ ⟨key, rfl | ⟨hk, hl⟩, rfl⟩
  · exact .refl SameButKey.refl _
  · unfold onKeySession Action.on Device.keySession
    rw [write_of_creator_eq_zero hk, write_of_creator_eq_zero hl]
    exact .error _ ⟨key.closed, AppKey.alike_closed _ _, rfl⟩

/-- Without an open key there is nothing to read, whatever the rest of the key. -/
theorem SameButKey.read_eq {d e : Device W R D} (h : SameButKey d e) :
    d.keySession.read = e.keySession.read := by
  obtain ⟨key, rfl | ⟨hk, hl⟩, rfl⟩ := h
  · rfl
  · unfold KeySession.read Device.keySession
    simp only [hk, hl, true_or, if_true]

variable [HostStorage W R] [SettingsStore W] [DriveBay D]

/-! ### Every command respects a closed key -/

theorem respects_perform (o : Operation) :
    Respects SameButKey (o.perform : Action (Device W R D) Unit) := by
  -- a write finds the same key open in both devices, or none in either
  by_cases hk : o.handlesKeys
  · cases o with
    | openKey key => exact respects_setKey (g := fun _ => key) fun _ => .inl rfl
    | writeKey data => exact (respects_writeKey data).bind_pure
    | closeKey => exact respects_setKey fun _ => AppKey.alike_closed _ _
    | _ => cases hk
  · exact respects_of_commutes fun key => perform_retouch o fun h => absurd h hk

theorem respects_answerOpcode {op : Opcode} {frame : Bytes} {act : Action (Device W R D) Bytes}
    (h : answerOpcode op frame = some act) : Respects SameButKey act := by
  by_cases hk : op.handlesKeys
  · cases op <;> simp only [answerOpcode, Option.some.injEq, reduceCtorEq] at h
    case readAppKey =>
      subst h
      exact respects_get_bind (fun h => by rw [h.read_eq]) fun _ => .lift _
    case closeAppKey =>
      subst h
      exact (respects_perform .closeKey).bind_pure
    all_goals cases hk
  · exact respects_of_commutes fun key =>
      answerOpcode_retouch (fun _ => rfl) (fun h => absurd h hk) h

theorem respects_answerOpcodeWithData {op : Opcode} {data : Bytes}
    {act : Action (Device W R D) Bytes} (h : answerOpcodeWithData op data = some act) :
    Respects SameButKey act := by
  by_cases hk : op.handlesKeys
  · cases op <;> simp only [answerOpcodeWithData, Option.some.injEq, reduceCtorEq] at h
    case writeAppKey =>
      subst h
      exact (respects_perform (.writeKey data)).bind_pure
    case openAppKey =>
      subst h
      exact Respects.bind_pure (.argument fun r => respects_perform (.openKey r.toKey))
    all_goals cases hk
  · exact respects_of_commutes fun key =>
      answerOpcodeWithData_retouch (fun h => absurd h hk) h

theorem respects_answerLine (command : Command) (l : Line) :
    Respects SameButKey (answerLine command l : Action (Device W R D) Answer) := by
  by_cases hk : command.handlesKeys
  · cases command
    case writeAppKey =>
      refine .argument fun _ => .argument fun token => .argument fun length => ?_
      rcases l.bytesFrom 1 with _ | data
      · exact .throw _
      · exact (respects_writeKey _).bind_pure
    case readAppKey =>
      exact respects_get_bind (fun h => by rw [h.read_eq]) fun _ => (Respects.lift _).bind_pure
    case openAppKey =>
      exact Respects.bind_pure (.argument fun key => respects_perform (.openKey key))
    case closeAppKey => exact (respects_perform .closeKey).bind_pure
    all_goals cases hk
  · exact respects_of_commutes fun key => answerLine_retouch (fun _ => rfl) (fun h => absurd h hk) l

namespace SameButKey

variable {d e : Device W R D}

omit [KeyStorage W] [HostStorage W R] [SettingsStore W] [DriveBay D] in
theorem noteOpcode (h : SameButKey d e) (op : Opcode) {act : Action (Device W R D) Bytes}
    (hact : Respects SameButKey act) :
    SameButKey (noteOpcode op act d) (noteOpcode op act e) := by
  have hends := hact d e h
  unfold Device.noteOpcode
  generalize act d = x, act e = y at hends ⊢
  cases hends with
  | ok data h =>
    obtain ⟨key, hkey, rfl⟩ := h
    exact ⟨key, hkey, rfl⟩
  | error err h =>
    obtain ⟨key, hkey, rfl⟩ := h
    exact ⟨key, hkey, rfl⟩

omit [KeyStorage W] [HostStorage W R] [SettingsStore W] [DriveBay D] in
theorem noteLine (h : SameButKey d e) {act : Action (Device W R D) Answer}
    (hact : Respects SameButKey act) : SameButKey (noteLine act d) (noteLine act e) := by
  have hends := hact d e h
  unfold Device.noteLine
  generalize act d = x, act e = y at hends ⊢
  cases hends with
  | ok answer h =>
    obtain ⟨key, hkey, rfl⟩ := h
    exact ⟨key, hkey, rfl⟩
  | error err h =>
    obtain ⟨key, hkey, rfl⟩ := h
    exact ⟨key, hkey, rfl⟩

omit [KeyStorage W] [HostStorage W R] [SettingsStore W] [DriveBay D] in
theorem setPending (h : SameButKey d e) (p : Pending → Pending) :
    SameButKey { d with pending := p d.pending } { e with pending := p e.pending } := by
  obtain ⟨key, hkey, rfl⟩ := h
  exact ⟨key, hkey, rfl⟩

/-- What a frame runs leaves devices that differ in a closed key. -/
theorem answerFrame (h : SameButKey d e) (payload : Bytes) (frame : Frame) :
    SameButKey (Device.answerFrame payload frame d).2 (Device.answerFrame payload frame e).2 := by
  cases frame with
  | empty => exact h
  | unknown code =>
    obtain ⟨key, hkey, rfl⟩ := h
    exact ⟨key, hkey, rfl⟩
  | opened op =>
    simp only [Device.answerFrame]
    rcases hact : answerOpcode op payload with _ | act
    · exact h.setPending (·.tried false)
    · exact (h.noteOpcode op (respects_answerOpcode hact)).setPending (·.tried true)
  | data op data =>
    simp only [Device.answerFrame]
    rcases hact : answerOpcodeWithData op data with _ | act
    · exact h.setPending (·.offered false)
    · exact (h.noteOpcode op (respects_answerOpcodeWithData hact)).setPending (·.offered true)
  | line l =>
    simp only [Device.answerFrame]
    rcases l.command with _ | command
    · exact h
    · exact h.noteLine (respects_answerLine command l)

/-- **A frame is answered alike by devices that differ in a closed key**, and leaves such
devices. -/
theorem receive (h : SameButKey d e) (payload : Bytes) :
    (Device.receive payload d).1 = (Device.receive payload e).1 ∧
      SameButKey (Device.receive payload d).2 (Device.receive payload e).2 := by
  have hpending : e.pending = d.pending := by
    obtain ⟨key, -, rfl⟩ := h
    rfl
  have hbegun (p : Pending) : SameButKey { d with response := {}, pending := p }
      { e with response := {}, pending := p } := by
    obtain ⟨key, hkey, rfl⟩ := h
    exact ⟨key, hkey, rfl⟩
  have hformat : (e.handled payload).1 = (d.handled payload).1 := by
    rw [format_handled, format_handled, hpending]
  have hrun : SameButKey (d.handled payload).2 (e.handled payload).2 := by
    rw [handled_eq_answerFrame, handled_eq_answerFrame, hpending]
    exact (hbegun (d.pending.decode payload).2).answerFrame payload _
  rw [receive_eq_settle, receive_eq_settle, hformat]
  obtain ⟨key, hkey, hleft⟩ := hrun
  rw [hleft]
  exact ⟨rfl, key, hkey, rfl⟩

/-- **One move** is answered alike by devices that differ in a closed key, and leaves such
devices. -/
theorem move (h : SameButKey d e) (m : Move W D) :
    m.reply? d = m.reply? e ∧ SameButKey (d.move m) (e.move m) := by
  cases m with
  | frame payload =>
    obtain ⟨hreply, hleft⟩ := h.receive payload
    exact ⟨congrArg some hreply, hleft⟩
  | resetBus =>
    obtain ⟨key, hkey, rfl⟩ := h
    exact ⟨rfl, key.closed, AppKey.alike_closed _ _, rfl⟩
  | call o => exact ⟨rfl, (respects_perform o).after h⟩
  | outside storage drives radio =>
    obtain ⟨key, hkey, rfl⟩ := h
    exact ⟨rfl, key, hkey, rfl⟩

/-- **A run** is answered alike by devices that differ in a closed key, and leaves such devices. -/
theorem run (h : SameButKey d e) (moves : List (Move W D)) :
    d.replies moves = e.replies moves ∧ SameButKey (d.run moves) (e.run moves) := by
  induction moves generalizing d e with
  | nil => exact ⟨rfl, h⟩
  | cons m moves ih =>
    obtain ⟨hreply, hmove⟩ := h.move m
    obtain ⟨hreplies, hrun⟩ := ih hmove
    refine ⟨?_, hrun⟩
    show (m.reply? d).toList ++ (d.move m).replies moves = _
    rw [hreply, hreplies]
    rfl

end SameButKey

/-! ### After a reset -/

/-- Of two devices that have started and run, whatever the settings, the hosts, the drives and the
world outside did, a reset of the bus touches no slot, no mount, no setting, no digest, no status
and nothing around the device. If they agree on all of that and differ only in what a client left in
the middle, then after a reset of both every run of moves is answered alike by both, and leaves them
the same but for the fields of a key that is not open. -/
theorem resetBus_forgets_sessions (storage storage' : W) (drives drives' : D)
    (radio radio' : Radio) (board board' : Board) (digester digester' : Digester)
    (before before' : List (Move W D)) :
    let d : Device W R D := (Device.start storage drives radio board digester).run before
    let e : Device W R D := (Device.start storage' drives' radio' board' digester').run before'
    SameButSessions d d.resetBus ∧
      (SameButSessions d e → ∀ later : List (Move W D),
        d.resetBus.replies later = e.resetBus.replies later ∧
          SameButKey (d.resetBus.run later) (e.resetBus.run later)) := by
  intro d e
  refine ⟨sameButSessions_resetBus d, fun h later => ?_⟩
  have hd : d.rack.OneListing := oneListing_run storage drives radio board digester before
  have he : e.rack.OneListing := oneListing_run storage' drives' radio' board' digester' before'
  exact (h.resetBus hd he).run later

/-- One client has a listing and a key open and an opcode pending; another one has come after a
reset and opened another key. -/
theorem resetBus_forgets_clients :
    let storage : Memory.Storage := { hosts := ({} : Memory.Hosts).withDir "a" "/x" }
    let first : List (Move Memory.Storage Memory.Drives) :=
      [.call (.nameHost 0 "a"), .call (.mountHost 0), .call (.openDirectory 0 "/" none),
        .call (.readDirectory 36 0), .call (.openKey ⟨1, 2, 3, .write, 0⟩), .frame [0x01, 0xFB]]
    let second := first ++ [.resetBus, .call (.openKey ⟨4, 5, 6, .read, 0⟩)]
    let d := (Memory.Surroundings.start { storage }).run first
    let e := (Memory.Surroundings.start { storage }).run second
    (d.pending = .waiting .setSsid ∧ d.rack.cursor.openOn = some 0 ∧ d.appKey.creator = 1) ∧
      (e.pending = .idle ∧ e.rack.cursor.openOn = none ∧ e.appKey.creator = 4) ∧
      SameButSessions d e ∧ ∀ later : List (Move Memory.Storage Memory.Drives),
        d.resetBus.replies later = e.resetBus.replies later ∧
          SameButKey (d.resetBus.run later) (e.resetBus.run later) := by
  intro storage first second d e
  have he : e = { d.resetBus with appKey := ⟨4, 5, 6, .read, 0⟩ } := run_append _ first _
  have hsame : SameButSessions d e := he ▸ (sameButSessions_resetBus d).openKey _
  have hforgets := resetBus_forgets_sessions storage storage ({} : Memory.Drives) {} {} {}
    { version := "dummy-0.1.0" } { version := "dummy-0.1.0" } DigestAlgorithm.digest
    DigestAlgorithm.digest first second
  exact ⟨by decide +kernel, by decide +kernel, hsame, hforgets.2 hsame⟩

end StorageAdapter
