import StorageAdapter.Memory.Adapter
import StorageAdapter.Proofs.Upheld

/-! # Restarts of WiFi

Setting credentials tries them, stores them if they work and are to be stored, and then restarts
WiFi and pauses. Each of these stands in the journal of the board. A network that cannot be joined
is an error only after the restart; settings that cannot be saved are one before it, and then there
is no restart (`wifi_restarted_iff`). -/

namespace StorageAdapter

open StorageAdapter.Action StorageAdapter.Device

/-- The lengths that credentials must have, in bytes. -/
structure Credentials.Admitted (c : Credentials) : Prop where
  ssid_pos : 0 < Text.size c.ssid
  ssid_le : Text.size c.ssid ≤ 32
  password_le : Text.size c.password ≤ 64

namespace Device

variable {W R D : Type}

/-! ### The steps -/

/-- The device after credentials were tried. -/
def tried (c : Credentials) (d : Device W R D) : Device W R D :=
  { d with radio := (d.radio.join c).2, board := d.board.note (.tested c) }

/-- The device with other credentials in its settings. -/
def withCredentials (c : Credentials) (d : Device W R D) : Device W R D :=
  { d with settings := { d.settings with
      wifi := { d.settings.wifi with ssid := c.ssid, passphrase := c.password } } }

/-- The device after a restart of WiFi and the pause behind it. -/
def wifiRestarted (d : Device W R D) : Device W R D :=
  { d with board := (d.board.note (.restarted d.settings.wifi)).note (.waited restartPause) }

/-- The credentials are accepted and to be stored, and the settings with them cannot be saved. -/
def FailsToStore [SettingsStore W] (c : Credentials) (store : Bool) (d : Device W R D) : Prop :=
  c ∈ d.radio.accepted ∧ store = true ∧ ∃ err w,
    SettingsStore.save (d.withCredentials c).currentSettings d.rack.storage = .error err w

theorem fst_join (r : Radio) (c : Credentials) : (r.join c).1 = decide (c ∈ r.accepted) := by
  unfold Radio.join
  by_cases h : c ∈ r.accepted
  · rw [if_pos h, decide_eq_true h]
  · rw [if_neg h, decide_eq_false h]

theorem journal_wifiRestarted (d : Device W R D) : d.wifiRestarted.board.journal =
    d.board.journal ++ [.restarted d.settings.wifi, .waited restartPause] :=
  List.append_assoc _ _ _

variable [SettingsStore W] {c : Credentials} {store : Bool} {d : Device W R D}

/-- Credentials of other lengths are refused before anything is done. -/
theorem setCredentials_refused (h : ¬c.Admitted) (store : Bool) (d : Device W R D) :
    ∃ what, setCredentials c store d = .error (.parameter what) d := by
  unfold setCredentials
  by_cases hssid : Text.size c.ssid = 0 ∨ ssidLimit < Text.size c.ssid
  · rw [if_pos hssid]
    exact ⟨_, rfl⟩
  rw [if_neg hssid]
  have hpassword : passphraseLimit < Text.size c.password := by
    by_contra hn
    unfold ssidLimit at hssid
    unfold passphraseLimit at hn
    exact h ⟨by omega, by omega, by omega⟩
  rw [if_pos hpassword]
  exact ⟨_, rfl⟩

/-- **Setting admitted credentials**: they are tried, and stored if they are accepted and to be
stored, which ends everything if it fails; then WiFi is restarted. -/
theorem setCredentials_admitted (h : c.Admitted) (store : Bool) (d : Device W R D) :
    setCredentials c store d =
      if c ∈ d.radio.accepted ∧ store = true then
        match Device.save ((d.tried c).withCredentials c) with
        | .ok _ e => .ok () e.wifiRestarted
        | .error err e => .error err e
      else if c ∈ d.radio.accepted then .ok () (d.tried c).wifiRestarted
      else .error .notConnected (d.tried c).wifiRestarted := by
  have hssid : ¬(Text.size c.ssid = 0 ∨ ssidLimit < Text.size c.ssid) := by
    have hpos := h.ssid_pos
    have hle := h.ssid_le
    unfold ssidLimit
    omega
  have hpassword : ¬passphraseLimit < Text.size c.password := Nat.not_lt.2 h.password_le
  have htest : testCredentials c d = .ok (decide (c ∈ d.radio.accepted)) (d.tried c) := by
    rw [← fst_join]
    rfl
  unfold setCredentials
  rw [if_neg hssid, if_neg hpassword]
  show (testCredentials c >>= _) d = _
  rw [bind_apply, htest]
  by_cases hc : c ∈ d.radio.accepted
  · cases store
    · simp only [hc, decide_true]
      rfl
    · simp only [hc, decide_true]
      show (Device.save >>= _) ((d.tried c).withCredentials c) = _
      rw [bind_apply]
      rcases Device.save ((d.tried c).withCredentials c) with ⟨u, e⟩ | ⟨err, e⟩ <;> rfl
  · simp only [hc, decide_false]
    rfl

/-! ### The journal -/

/-- What setting admitted credentials writes into the journal. -/
theorem journal_setCredentials (h : c.Admitted) (store : Bool) (d : Device W R D) :
    let e := (setCredentials c store).after d
    ¬d.FailsToStore c store ∧ e.board.journal = d.board.journal ++
        [.tested c, .restarted e.settings.wifi, .waited restartPause] ∨
      d.FailsToStore c store ∧ e.board.journal = d.board.journal ++ [.tested c] := by
  have hrestarted (e : Device W R D) (he : e.board = d.board.note (.tested c)) :
      e.wifiRestarted.board.journal = d.board.journal ++
        [.tested c, .restarted e.wifiRestarted.settings.wifi, .waited restartPause] := by
    rw [journal_wifiRestarted, he]
    exact List.append_assoc _ _ _
  intro e
  have he : e = (setCredentials c store).after d := rfl
  unfold Action.after at he
  rw [setCredentials_admitted h] at he
  by_cases hstored : c ∈ d.radio.accepted ∧ store = true
  · -- the settings that are saved and the storage are not changed by the test
    have hsettings : ((d.tried c).withCredentials c).currentSettings =
      (d.withCredentials c).currentSettings := rfl
    have hstorage : ((d.tried c).withCredentials c).rack.storage = d.rack.storage := rfl
    rw [if_pos hstored, save_apply, hsettings, hstorage] at he
    rcases hsave : SettingsStore.save (d.withCredentials c).currentSettings d.rack.storage with
      ⟨u, w⟩ | ⟨err, w⟩ <;> rw [hsave] at he
    · have hnot : ¬d.FailsToStore c store := by
        rintro ⟨-, -, err, w', hw⟩
        exact nomatch hsave.symm.trans hw
      refine .inl ⟨hnot, ?_⟩
      rw [he]
      exact hrestarted _ rfl
    · refine .inr ⟨⟨hstored.1, hstored.2, err, w, hsave⟩, ?_⟩
      rw [he]
      rfl
  · have hnot : ¬d.FailsToStore c store := fun hf => hstored ⟨hf.1, hf.2.1⟩
    rw [if_neg hstored] at he
    refine .inl ⟨hnot, ?_⟩
    by_cases hc : c ∈ d.radio.accepted
    · rw [if_pos hc] at he
      rw [he]
      exact hrestarted _ rfl
    · rw [if_neg hc] at he
      rw [he]
      exact hrestarted _ rfl

/-- **WiFi is restarted unless the credentials should be stored and cannot.** On any device and any
storage, setting credentials with a name of 1 to 32 bytes and a passphrase of at most 64 bytes tries
them and then asks for one restart, with the settings as they are left, and one pause of 4000
milliseconds behind it, whether or not the network could be joined, if and only if it is not the
case that they were accepted, were to be stored and could not be saved; then it only tries them.
Credentials of other lengths are refused, and the device is left as it was. -/
theorem wifi_restarted_iff (c : Credentials) (store : Bool) (d : Device W R D) :
    let e := (setCredentials c store).after d
    (c.Admitted →
      (e.board.journal = d.board.journal ++
          [.tested c, .restarted e.settings.wifi, .waited 4000] ↔ ¬d.FailsToStore c store) ∧
      (d.FailsToStore c store → e.board.journal = d.board.journal ++ [.tested c])) ∧
    (¬c.Admitted → ∃ what, setCredentials c store d = .error (.parameter what) d) := by
  intro e
  refine ⟨fun h => ?_, fun h => setCredentials_refused h store d⟩
  obtain ⟨hnot, hjournal⟩ | ⟨hfails, hjournal⟩ := journal_setCredentials h store d
  · exact ⟨⟨fun _ => hnot, fun _ => hjournal⟩, fun hfails => absurd hfails hnot⟩
  · refine ⟨⟨fun hrestarted => ?_, fun hnot => absurd hfails hnot⟩, fun _ => hjournal⟩
    have hsame := List.append_cancel_left (hjournal.symm.trans hrestarted)
    cases hsame

end Device

/-- A wrong passphrase is an error, but WiFi is restarted all the same, although settings cannot be
saved; a name of 33 bytes is refused. -/
theorem wifi_restarted_wrong_passphrase :
    let d : Memory.Adapter := Memory.Surroundings.start {
      storage.faults.save := true
      radio := ({} : Radio).addNetwork ⟨"home", "secret"⟩ (-40) }
    let wrong : Credentials := ⟨"home", "guess"⟩
    let long : Credentials := ⟨"0123456789abcdef0123456789abcdefg", ""⟩
    wrong.Admitted ∧ ¬long.Admitted ∧
      ((setCredentials wrong true).after d).board.journal =
        [.tested wrong, .restarted {}, .waited 4000] ∧
      ∃ what, setCredentials long true d = .error (.parameter what) d := by
  intro d wrong long
  have hwrong : wrong.Admitted := ⟨by decide, by decide, by decide⟩
  have hlong : ¬long.Admitted := fun h => absurd h.ssid_le (by decide)
  have hstored : ¬d.FailsToStore wrong true := fun h => absurd h.1 (by decide)
  have hsettings : ((setCredentials wrong true).after d).settings.wifi = {} := by decide +kernel
  refine ⟨hwrong, hlong, ?_, (wifi_restarted_iff long true d).2 hlong⟩
  have hjournal := (((wifi_restarted_iff wrong true d).1 hwrong).1).2 hstored
  rw [hsettings] at hjournal
  exact hjournal

/-- The right passphrase, when settings cannot be saved: there is no restart and no pause. -/
theorem wifi_not_restarted_when_save_fails :
    let d : Memory.Adapter := Memory.Surroundings.start {
      storage.faults.save := true
      radio := ({} : Radio).addNetwork ⟨"home", "secret"⟩ (-40) }
    let c : Credentials := ⟨"home", "secret"⟩
    c.Admitted ∧ ((setCredentials c true).after d).board.restarts = [] ∧
      ((setCredentials c true).after d).board.pauses = [] := by
  refine ⟨⟨by decide, by decide, by decide⟩, ?_⟩
  decide +kernel

end StorageAdapter
