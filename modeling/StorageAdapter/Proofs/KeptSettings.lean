import StorageAdapter.Proofs.Memory

/-! # Kept settings

`KeepsSettings` is what the adapter relies on of a store of settings that can be read: what was
saved without an error is loaded, and no other use of the storage changes what is loaded. A failed
save may leave anything behind. `Watched` storage remembers how the last attempt to save ended. -/

namespace StorageAdapter

open StorageAdapter.Action

/-- Settings are kept by the storage while they can be read. -/
class KeepsSettings (W : Type) (R : outParam Type) [HostStorage W R] [SettingsStore W]
    [KeyStorage W] where
  /-- Loading works, whatever is stored. -/
  Readable : W → Prop
  load_save {settings : Settings} {w v : W} (hr : Readable w)
    (h : SettingsStore.save settings w = .ok () v) : SettingsStore.load v = .ok settings
  readable_save (settings : Settings) {w : W} (hr : Readable w) :
    Readable ((SettingsStore.save settings).after w)
  load_used {w v : W} (hr : Readable w) (h : Used w v) :
    SettingsStore.load v = SettingsStore.load w
  readable_used {w v : W} (hr : Readable w) (h : Used w v) : Readable v

/-! ### Storage in memory -/

namespace Memory.Storage

/-- The storage with settings saved. -/
def saved (settings : Settings) (w : Storage) : Storage :=
  { w with config := { w.config with stored := some settings, saves := w.config.saves + 1 } }

/-- Saving fails and changes nothing, or the settings are stored. -/
theorem save_cases (settings : Settings) (w : Storage) :
    (∃ e, save settings w = .error e w) ∨ save settings w = .ok () (saved settings w) := by
  unfold save
  rw [bind_apply]
  simp only [get_apply]
  split
  · exact .inl ⟨.io "config write failed", rfl⟩
  · exact .inr rfl

theorem load_of_readable {w : Storage} (h : w.config.unreadable = false) :
    load w = .ok (w.config.stored.getD {}) := by
  unfold load
  rw [if_neg (by simpa using h)]

instance : KeepsSettings Storage String where
  Readable w := w.config.unreadable = false
  load_save {settings w v} hr h := by
    have h : save settings w = .ok () v := h
    obtain ⟨e, hs⟩ | hs := save_cases settings w <;> rw [hs] at h
    · cases h
    · obtain ⟨-, rfl⟩ := EStateM.Result.ok.inj h
      exact load_of_readable (w := saved settings w) hr
  readable_save settings w hr := by
    show ((save settings).after w).config.unreadable = false
    unfold after
    obtain ⟨e, hs⟩ | hs := save_cases settings w <;> rw [hs] <;> exact hr
  load_used _ h := by
    show load _ = load _
    unfold load
    rw [(used_keeps h).1]
  readable_used hr h := (congrArg Config.unreadable (used_keeps h).1).trans hr

end Memory.Storage

/-! ### Watched storage -/

/-- Storage that remembers how the last attempt to save settings ended. -/
structure Watched (W : Type) where
  inner : W
  lastSave : Option (Except Error Unit) := none

namespace Watched

variable {W R : Type}

/-- An action on the storage that is watched. -/
def onInner {α : Type} : Action W α → Action (Watched W) α :=
  Action.on Watched.inner fun inner w => { w with inner }

theorem after_onInner {α : Type} (act : Action W α) (w : Watched W) :
    (onInner act).after w = { w with inner := act.after w.inner } := after_on _ _ act w

/-- Whether the last attempt to save settings failed. -/
def LastSaveFailed (w : Watched W) : Prop := ∃ e, w.lastSave = some (.error e)

instance [HostStorage W R] : HostStorage (Watched W) R where
  connect name kind := onInner (HostStorage.connect name kind)
  openImage root path mode := onInner (HostStorage.openImage root path mode)
  list root path pattern w := HostStorage.list root path pattern w.inner
  failureKeepsListing := HostStorage.failureKeepsListing W
  position w entriesRead := HostStorage.position w.inner entriesRead
  canSeek w := HostStorage.canSeek w.inner
  release root := onInner (HostStorage.release root)

/-- Saves settings and notes how that ended. -/
def save [SettingsStore W] (settings : Settings) : Action (Watched W) Unit := fun w =>
  match SettingsStore.save settings w.inner with
  | .ok () inner => .ok () { inner, lastSave := some (.ok ()) }
  | .error e inner => .error e { inner, lastSave := some (.error e) }

instance [SettingsStore W] : SettingsStore (Watched W) where
  load w := SettingsStore.load w.inner
  save := save

instance [KeyStorage W] : KeyStorage (Watched W) where
  available w := KeyStorage.available w.inner
  createDir path := onInner (KeyStorage.createDir path)
  write path data := onInner (KeyStorage.write path data)
  read path limit w := KeyStorage.read path limit w.inner

/-- Watching changes nothing, and no other use of the storage changes what was noted. -/
theorem used_inner [HostStorage W R] [KeyStorage W] {w v : Watched W} (h : Used w v) :
    Used w.inner v.inner ∧ v.lastSave = w.lastSave := by
  induction h with
  | nothing => exact ⟨.nothing, rfl⟩
  | @connect v name kind _ ih =>
    have h : (HostStorage.connect name kind : Action (Watched W) R).after v = _ := after_onInner _ v
    rw [h]
    exact ⟨.connect name kind ih.1, ih.2⟩
  | @openImage v root path mode _ ih =>
    have h : (HostStorage.openImage root path mode).after v = _ := after_onInner _ v
    rw [h]
    exact ⟨.openImage root path mode ih.1, ih.2⟩
  | @release v root _ ih =>
    have h : (HostStorage.release root).after v = _ := after_onInner _ v
    rw [h]
    exact ⟨.release root ih.1, ih.2⟩
  | @createDir v path _ ih =>
    have h : (KeyStorage.createDir path).after v = _ := after_onInner _ v
    rw [h]
    exact ⟨.createDir path ih.1, ih.2⟩
  | @write v path data _ ih =>
    have h : (KeyStorage.write path data).after v = _ := after_onInner _ v
    rw [h]
    exact ⟨.write path data ih.1, ih.2⟩

variable [HostStorage W R] [SettingsStore W] [KeyStorage W] [KeepsSettings W R]

theorem load_used {w v : Watched W} (hr : KeepsSettings.Readable w.inner) (h : Used w v) :
    SettingsStore.load v = SettingsStore.load w := by
  show SettingsStore.load v.inner = SettingsStore.load w.inner
  exact KeepsSettings.load_used hr (used_inner h).1

theorem readable_save {w : Watched W} (hr : KeepsSettings.Readable w.inner)
    (settings : Settings) :
    KeepsSettings.Readable ((SettingsStore.save settings).after w).inner := by
  have h := KeepsSettings.readable_save settings hr
  show KeepsSettings.Readable ((save settings).after w).inner
  unfold after at h
  unfold after save
  rcases hs : SettingsStore.save settings w.inner with ⟨_, v⟩ | ⟨e, v⟩ <;> rw [hs] at h <;> exact h

/-- After an attempt to save, either it failed or what was to be saved is loaded. -/
theorem load_after_save {w : Watched W} (hr : KeepsSettings.Readable w.inner)
    (settings : Settings) : ((SettingsStore.save settings).after w).LastSaveFailed ∨
      SettingsStore.load ((SettingsStore.save settings).after w) = .ok settings := by
  show ((save settings).after w).LastSaveFailed ∨
    SettingsStore.load ((save settings).after w).inner = .ok settings
  unfold after save
  rcases h : SettingsStore.save settings w.inner with ⟨_, v⟩ | ⟨e, v⟩
  · exact .inr (KeepsSettings.load_save hr h)
  · exact .inl ⟨e, rfl⟩

end Watched

end StorageAdapter
