import StorageAdapter.Folder.Storage
import StorageAdapter.Proofs.FileTree
import StorageAdapter.Proofs.SettingsText
import StorageAdapter.Proofs.Utf8

/-! # The settings file

Settings that are saved in a folder are loaded from it again (`settings_survive`). Whether they can
be saved depends on the folder alone, and once it has held settings, it can hold any others. -/

namespace StorageAdapter.Folder.Storage

variable {settings other : Settings} {s : Storage}

/-- What the settings file holds. -/
def settingsBytes (settings : Settings) : Bytes := Text.encode (Toml.settingsText settings)

/-- The folder has a settings file with these settings, which can be replaced. -/
def Holds (settings : Settings) (s : Storage) : Prop :=
  ∃ (tree : FileTree) (target : Path) (time : Int), tree.Writable s.settingsFile target ∧
    tree.isDir s.settingsFile.dropLast = true ∧
    s.tree = tree.put target (FileTree.fileAt (settingsBytes settings) time)

/-- Saving makes the directory of the file and then writes that. -/
theorem save_eq (settings : Settings) (s : Storage) : save settings s =
    match FileTree.makeDirs s.settingsFile.dropLast s.tree with
    | .error f tree => .error f.toError { s with tree }
    | .ok _ tree =>
      match FileTree.writeFile s.settingsFile (settingsBytes settings) tree with
      | .error f tree => .error f.toError { s with tree }
      | .ok _ tree => .ok () { s with tree } := by
  set change : FileTree.Change Unit := do
    FileTree.makeDirs s.settingsFile.dropLast
    FileTree.writeFile s.settingsFile (settingsBytes settings)
  have hchange : change s.tree =
      match FileTree.makeDirs s.settingsFile.dropLast s.tree with
      | .error f tree => .error f tree
      | .ok _ tree => FileTree.writeFile s.settingsFile (settingsBytes settings) tree := by
    show EStateM.bind _ _ s.tree = _
    unfold EStateM.bind
    rcases FileTree.makeDirs s.settingsFile.dropLast s.tree with ⟨_, tree⟩ | ⟨f, tree⟩ <;> rfl
  have hsave : save settings s = onTree Fault.toError change s := rfl
  rw [hsave]
  unfold onTree
  rw [hchange]
  rcases FileTree.makeDirs s.settingsFile.dropLast s.tree with ⟨_, tree⟩ | ⟨f, tree⟩
  · rcases hwrite : FileTree.writeFile s.settingsFile (settingsBytes settings) tree with
      ⟨_, tree'⟩ | ⟨f, tree'⟩ <;> simp only [hwrite]
  · rfl

/-- **Whether settings can be saved does not depend on them**, and if so, they are in the file. -/
theorem save_cases (s : Storage) : (∃ e s', ∀ settings, save settings s = .error e s') ∨
    ∀ settings, ∃ s', save settings s = .ok () s' ∧ s'.Holds settings := by
  rcases hdirs : FileTree.makeDirs s.settingsFile.dropLast s.tree with ⟨_, tree⟩ | ⟨f, tree⟩
  · rcases tree.writeFile_cases s.settingsFile with ⟨f, hfault⟩ | ⟨target, htarget⟩
    · refine .inl ⟨f.toError, { s with tree }, fun settings => ?_⟩
      rw [save_eq, hdirs]
      simp only [hfault]
    · refine .inr fun settings => ?_
      refine ⟨{ s with tree := tree.put target _ }, ?_, tree, target, tree.timeAt target, htarget,
        ?_, rfl⟩
      · rw [save_eq, hdirs]
        simp only [htarget.writeFile]
      · obtain ⟨dir, -, hwalk, hdir, -⟩ := FileTree.place_eq_ok_iff.1 htarget.place
        exact FileTree.isDir_iff.2 ⟨dir, FileTree.fault?_of_makeDirs hdirs, hwalk, hdir⟩
  · refine .inl ⟨f.toError, { s with tree }, fun settings => ?_⟩
    rw [save_eq, hdirs]

theorem toBytes_bytes (bs : Bytes) : Content.toBytes { bytes := bs } = bs := by
  simp [Content.toBytes, Content.take, Content.size]

/-- **What the file holds is loaded.** -/
theorem Holds.load (h : s.Holds settings) : load s = .ok settings := by
  obtain ⟨tree, target, time, htarget, -, htree⟩ := h
  have hfind : s.tree.find s.settingsFile =
      .ok (FileTree.fileAt (settingsBytes settings) time) := by
    rw [htree]
    exact htarget.find rfl
  have htext : Text.decode? (settingsBytes settings) = some (Toml.settingsText settings) :=
    Text.decode?_encode _
  unfold Storage.load
  rw [hfind]
  simp only [FileTree.fileAt, toBytes_bytes, htext, Toml.readSettings_settingsText]

/-- **A file that holds settings can be replaced**, and not even its time tells it if the settings
are the same. -/
theorem Holds.save (h : s.Holds settings) (other : Settings) :
    ∃ s', save other s = .ok () s' ∧ s'.Holds other ∧ (other = settings → s' = s) := by
  obtain ⟨tree, target, time, htarget, hdir, htree⟩ := h
  have hfile : (FileTree.fileAt (settingsBytes settings) time).isDir = false := rfl
  have hagain := htarget.put hfile
  have hdir' : s.tree.isDir s.settingsFile.dropLast = true := by
    obtain ⟨dir, hfault, hwalk, hthere⟩ := FileTree.isDir_iff.1 hdir
    rw [htree]
    refine FileTree.isDir_iff.2 ⟨dir, hfault,
      FileTree.walkFrom_put htarget.file hfile htarget.ne_nil hwalk, ?_⟩
    rwa [FileTree.isDirAt_put htarget.file hfile htarget.ne_nil]
  have htime : s.tree.timeAt target = time := by
    unfold FileTree.timeAt
    rw [htree, FileTree.item?_put_self htarget.ne_nil]
    rfl
  have hput (bs : Bytes) : s.tree.put target (FileTree.fileAt bs time) =
      tree.put target (FileTree.fileAt bs time) := by
    rw [htree]
    exact congrArg FileTree.mk (Catalog.put_put tree.items target _ _)
  refine ⟨{ s with tree := tree.put target (FileTree.fileAt (settingsBytes other) time) }, ?_,
    ⟨tree, target, time, htarget, hdir, rfl⟩, ?_⟩
  · have hwrite := (htree ▸ hagain : s.tree.Writable s.settingsFile target).writeFile
      (settingsBytes other)
    rw [htime, hput] at hwrite
    rw [save_eq, FileTree.makeDirs_of_isDir hdir']
    simp only [hwrite]
  · rintro rfl
    rw [← htree]

/-- **Settings survive the settings file.** Any settings are read back from the text that is written
for them, whatever characters their names, paths and passphrase have. When they have been saved,
they are loaded as they were, saving them once more leaves the file as it is, and any others can be
saved in their place. Only the folder can keep settings from being saved, and then it keeps all. -/
theorem settings_survive (settings : Settings) (s : Storage) :
    Toml.readSettings (Toml.settingsText settings) = some settings ∧
      match save settings s with
      | .ok _ saved => load saved = .ok settings ∧ save settings saved = .ok () saved ∧
          ∀ other, ∃ later, save other saved = .ok () later ∧ load later = .ok other
      | .error e failed => ∀ other, save other s = .error e failed := by
  refine ⟨Toml.readSettings_settingsText settings, ?_⟩
  rcases s.save_cases with ⟨e, failed, hfailed⟩ | hsaved
  · rw [hfailed]
    exact hfailed
  · obtain ⟨saved, hsave, hholds⟩ := hsaved settings
    obtain ⟨same, hagain, -, hsame⟩ := hholds.save settings
    rw [hsave]
    refine ⟨hholds.load, ?_, fun other => ?_⟩
    · rw [hagain, hsame rfl]
    · obtain ⟨later, hlater, hlaterHolds, -⟩ := hholds.save other
      exact ⟨later, hlater, hlaterHolds.load⟩

/-- Quotes, backslashes, control characters and ends of lines survive in a folder that was empty. -/
theorem settings_survive_quotes :
    let settings : Settings := {
      hosts := Slots.set (Vector.replicate 8 {}) 2 { name := "é\"\\", kind := .tnfs }
      mounts := Slots.set (Vector.replicate 8 {}) 0
        { hostSlot := some 255, path := "a\n\x27\x27\x27\"\"\"\x0d\x01b", mode := .readWrite }
      wifi :=
        { enabled := false, ssid := "\x27\x27\x27\\\n\n\x27\x27", passphrase := "\x7f\t\"\"" }
      bootConfig := false
      bootDevice := 200 }
    ∃ saved, save settings (below ["data"] {}) = .ok () saved ∧ load saved = .ok settings ∧
      save settings saved = .ok () saved := by
  intro settings
  have hok : (match save settings (below ["data"] {}) with
      | .ok _ _ => true
      | .error _ _ => false) = true := by
    decide +kernel
  have hsurvive := (settings_survive settings (below ["data"] {})).2
  rcases hsave : save settings (below ["data"] {}) with ⟨_, saved⟩ | ⟨e, failed⟩
  · rw [hsave] at hsurvive
    exact ⟨saved, rfl, hsurvive.1, hsurvive.2.1⟩
  · rw [hsave] at hok
    exact nomatch hok

end StorageAdapter.Folder.Storage
