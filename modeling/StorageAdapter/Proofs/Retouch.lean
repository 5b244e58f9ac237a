import StorageAdapter.Proofs.BankMaps
import StorageAdapter.Proofs.Upheld

/-! # What commands do not look at

No command looks at the notes of a device, which are what is pending, what waits for the caller and
how the last command ended; only few look at the open key; and of the drives none sees more than
what calls yield. So on a device that is changed in these, every command does what it does on the
device itself (`perform_onto`) and answers the same (`answerOpcode_onto`,
`answerOpcodeWithData_onto`, `answerLine_onto`). The lemmas that end in `retouch` are the cases in
which the drives stay. -/

namespace StorageAdapter

open StorageAdapter.Action StorageAdapter.Device

variable {W R D D' : Type}

/-! ### Changes to a device -/

/-- Changes to the open key and to the notes. -/
structure Retouch where
  key : AppKey → AppKey := id
  pending : Pending → Pending := id
  response : Response → Response := id
  status : Status → Status := id

/-- The device with its open key and its notes changed. -/
def Retouch.apply (a : Retouch) (d : Device W R D) : Device W R D :=
  { d with
    appKey := a.key d.appKey
    pending := a.pending d.pending
    response := a.response d.response
    status := a.status d.status }

/-- The device on the image of its drives, with its open key and its notes changed. -/
def Retouch.onto (a : Retouch) (f : D → D') (d : Device W R D) : Device W R D' :=
  a.apply (d.onBank f)

/-! ### Operations -/

section Blind

variable {a : Retouch} {f : D → D'} {α β : Type}

theorem shadows_onRack {x : Action (Rack W R D) α} {y : Action (Rack W R D') α}
    (h : Shadows (Rack.onBank f) x y) : Shadows (a.onto f) (onRack x) (onRack y) :=
  shadows_on h (fun _ => rfl) fun _ _ => rfl

theorem keySession_onto (hk : a.key = id) (d : Device W R D) :
    (a.onto f d).keySession = d.keySession := by
  unfold Device.keySession Retouch.onto Retouch.apply
  rw [hk]
  rfl

theorem shadows_onKeySession (hk : a.key = id) (act : Action (KeySession W) α) :
    Shadows (a.onto f) (onKeySession act : Action (Device W R D) α) (onKeySession act) := by
  obtain ⟨key, pending, response, status⟩ := a
  obtain rfl : key = id := hk
  exact shadows_on (.refl act) (fun _ => rfl) fun _ _ => rfl

theorem shadows_setKey (hk : a.key = id) (g : AppKey → AppKey) :
    Shadows (a.onto f)
      (modify fun d => { d with appKey := g d.appKey } : Action (Device W R D) PUnit)
      (modify fun d => { d with appKey := g d.appKey }) := by
  obtain ⟨key, pending, response, status⟩ := a
  obtain rfl : key = id := hk
  exact shadows_modify fun _ => rfl

theorem shadows_note (e : Event) :
    Shadows (a.onto f) (note e : Action (Device W R D) Unit) (note e) :=
  shadows_modify fun _ => rfl

/-- An action that only tells what the change has no part in. -/
theorem shadows_told {k : Device W R D → α} {l : Device W R D' → α}
    (hk : ∀ d, l (a.onto f d) = k d) :
    Shadows (a.onto f) (do return k (← get)) (do return l (← get)) :=
  shadows_get_bind fun d => hk d ▸ .pure _

theorem shadows_told_lift {x : Device W R D → Except Error β} {y : Device W R D' → Except Error β}
    {k : β → α} (hx : ∀ d, y (a.onto f d) = x d) :
    Shadows (a.onto f)
      ((get : Action (Device W R D) _) >>= fun d => liftM (x d) >>= fun b => pure (k b))
      ((get : Action (Device W R D') _) >>= fun d => liftM (y d) >>= fun b => pure (k b)) :=
  shadows_get_bind fun d => hx d ▸ (Shadows.lift _).bind_pure

variable [SettingsStore W]

theorem shadows_save :
    Shadows (a.onto f) (Device.save : Action (Device W R D) Unit) Device.save := by
  refine .bind (shadows_modify fun d => by rfl) fun _ => ?_
  exact shadows_get_bind fun _ => shadows_onRack (Rack.shadows_onStorage _)

theorem shadows_saved {g : Device W R D → Device W R D} {h : Device W R D' → Device W R D'}
    (hg : ∀ d, h (a.onto f d) = a.onto f (g d)) :
    Shadows (a.onto f) (modify g >>= fun _ => Device.save) (modify h >>= fun _ => Device.save) :=
  (shadows_modify hg).bind fun _ => shadows_save

theorem shadows_setCredentials (c : Credentials) (store : Bool) :
    Shadows (a.onto f) (setCredentials c store : Action (Device W R D) Unit)
      (setCredentials c store) := by
  have htest : Shadows (a.onto f) (testCredentials c : Action (Device W R D) Bool)
      (testCredentials c) := fun _ => rfl
  -- WiFi is restarted whether or not credentials were stored
  have hrest (joined : Bool) : Shadows (a.onto f)
      (do
        note (.restarted (← get).settings.wifi)
        note (.waited restartPause)
        if !joined then throw .notConnected : Action (Device W R D) Unit)
      (do
        note (.restarted (← get).settings.wifi)
        note (.waited restartPause)
        if !joined then throw .notConnected) :=
    shadows_get_bind fun _ => (shadows_note _).bind fun _ =>
      (shadows_note _).bind fun _ => .ite (.throw _) (.pure _)
  unfold setCredentials
  refine .guard (.guard (htest.bind fun joined => .ite ?_ (hrest joined)))
  refine .bind (shadows_modify fun d => ?_) fun _ => shadows_save.bind fun _ => hrest joined
  rfl

variable [HostStorage W R] [DriveBay D] [DriveBay D'] (hf : BankMap f)
include hf

omit [SettingsStore W] in
theorem shadows_refillSlots :
    Shadows (a.onto f) (refillSlots : Action (Device W R D) Unit) refillSlots :=
  shadows_modify fun d => congrArg (fun rack => a.apply { d.onBank f with rack })
    (Rack.onBank_fill hf d.settings d.rack)

theorem shadows_mountImage (slot : UInt8) (mode : AccessMode) :
    Shadows (a.onto f) (mountImage slot mode : Action (Device W R D) MediaType)
      (mountImage slot mode) :=
  .argument fun _ => (shadows_refillSlots hf).bind fun _ =>
    (shadows_onRack (Rack.shadows_mountImage hf slot mode)).bind fun media =>
      .bind (shadows_modify fun d => by rfl) fun _ => shadows_save.bind fun _ => .pure media

omit [SettingsStore W] in
theorem shadows_mountInTurn (slots : List (Fin 8)) :
    Shadows (a.onto f) (mountInTurn slots : Action (Device W R D) Unit) (mountInTurn slots) := by
  induction slots with
  | nil => exact .pure _
  | cons i rest ih =>
    unfold mountInTurn
    refine shadows_get_bind fun d => .ite ?_ ih
    refine (shadows_onRack (Rack.shadows_mountImage hf _ _)).bind fun _ =>
      .bind (shadows_modify fun d => ?_) fun _ => ih
    rfl

theorem shadows_mountAll :
    Shadows (a.onto f) (Device.mountAll : Action (Device W R D) Unit) Device.mountAll := by
  unfold Device.mountAll
  refine (shadows_mountInTurn hf _).attempt.bind fun result => ?_
  rcases result with e | _
  · exact shadows_save.attempt.bind fun _ => .throw e
  · exact shadows_saved fun _ => rfl

omit [HostStorage W R] [SettingsStore W] in
theorem switchDevices_onto (active : Bool) (devices : List UInt8) (d : Device W R D) :
    devices.foldl (switchDevice active) (a.onto f d) =
      a.onto f (devices.foldl (switchDevice active) d) :=
  List.foldl_hom (a.onto f) fun d device =>
    congrArg a.apply (onBank_switchDevice hf active d device)

variable [KeyStorage W]

/-- **No operation looks at the notes**, and none changes them; those that do not handle keys leave
the open key alone, too. On the image of the drives, an operation does what it does on the
drives. -/
theorem perform_onto (o : Operation) (hk : o.handlesKeys → a.key = id) :
    Shadows (a.onto f) (o.perform : Action (Device W R D) Unit) o.perform := by
  cases o with
  | save => exact shadows_save
  | reboot => exact shadows_note _
  | scan => exact fun _ => rfl
  | setCredentials c store => exact shadows_setCredentials c store
  | switchWifi enabled => exact shadows_saved fun _ => rfl
  | setConfigBoot enabled => exact shadows_saved fun _ => rfl
  | setBootDevice device => exact shadows_saved fun _ => rfl
  | switchDevices devices active => exact shadows_saved (switchDevices_onto hf active devices)
  | mountHost slot =>
    exact .argument fun _ => (shadows_refillSlots hf).bind fun _ =>
      shadows_onRack (Rack.shadows_mountHost slot)
  | unmountHost slot =>
    refine .argument fun i => .bind (shadows_modify fun d => ?_) fun _ =>
      shadows_onRack (Rack.shadows_unmountHost slot)
    rw [apply_ite (a.onto f)]
    exact congrArg (fun rack => if d.rack.cursor.openOn = some i then
      a.apply { d.onBank f with rack } else a.onto f d) (Rack.onBank_closeDirectory d.rack)
  | nameHost slot name =>
    exact .argument fun i => shadows_saved fun d =>
      congrArg (fun rack => a.apply { d.onBank f with rack }) (onBank_renameHost i name d.rack)
  | replaceHostnames payload =>
    exact .argument fun names => shadows_saved fun d =>
      congrArg (fun rack => a.apply { d.onBank f with rack })
        (List.foldl_hom (Rack.onBank f) onBank_renameIfChanged)
  | mountImage slot mode => exact (shadows_mountImage hf slot mode).bind_pure
  | unmountImage slot =>
    exact (shadows_onRack (Rack.shadows_unmountImage hf slot)).bind fun _ => shadows_save
  | mountAll => exact shadows_mountAll hf
  | setFilename slot host mode filename =>
    exact (shadows_onRack (Rack.shadows_pointDisk hf _ _ _ _)).bind fun _ => shadows_save
  | replaceDisks payload =>
    exact .argument fun _ => .argument fun _ =>
      (shadows_onRack (shadows_assignRecords hf _)).bind fun _ => shadows_save
  | openDirectory slot path pattern => exact shadows_onRack (Rack.shadows_openDirectory _ _ _)
  | readDirectory limit options =>
    exact (shadows_onRack (Rack.shadows_readDirectory _ _)).bind_pure
  | directoryPosition => exact (shadows_onRack Rack.shadows_directoryPosition).bind_pure
  | seekDirectory position => exact shadows_onRack (Rack.shadows_seekDirectory position)
  | closeDirectory => exact shadows_onRack (shadows_modify Rack.onBank_closeDirectory)
  | openKey key => exact shadows_setKey (hk rfl) fun _ => key
  | writeKey data => exact (shadows_onKeySession (hk rfl) _).bind_pure
  | closeKey => exact shadows_setKey (hk rfl) AppKey.closed
  | feedDigest data => exact shadows_modify fun _ => rfl
  | computeDigest algorithm clear => exact shadows_modify fun _ => rfl
  | clearDigest => exact shadows_modify fun _ => rfl

theorem perform_keyless (o : Operation) (h : o.handlesKeys = false) :
    Shadows (a.onto f) (o.perform : Action (Device W R D) Unit) o.perform :=
  perform_onto hf o fun hk => absurd hk (ne_true_of_eq_false h)

/-! ### Commands -/

/-- Whether the opcode is about keys. -/
def Opcode.handlesKeys : Opcode → Bool
  | writeAppKey | readAppKey | openAppKey | closeAppKey => true
  | _ => false

/-- Whether the command line is about keys. -/
def Command.handlesKeys : Command → Bool
  | writeAppKey | readAppKey | openAppKey | closeAppKey => true
  | _ => false

/-- An opcode without data does not look at the notes, but for the one that reads the status, nor at
the open key if it does not handle keys. -/
theorem answerOpcode_onto {op : Opcode} (hs : op = .status → a.status = id)
    (hk : op.handlesKeys → a.key = id) (frame : Bytes) :
    Option.Rel (Shadows (a.onto f)) (answerOpcode op frame : Option (Action (Device W R D) Bytes))
      (answerOpcode op frame) := by
  cases op
  case status =>
    exact .some (shadows_told fun d => congrArg Status.toBytes (congrFun (hs rfl) d.status))
  case reset => exact .some (perform_keyless hf .reboot rfl).bind_pure
  case scan => exact .some (Shadows.bind_pure fun _ => rfl)
  case closeDirectory => exact .some (perform_keyless hf .closeDirectory rfl).bind_pure
  case writeHostSlots => exact .some (perform_keyless hf (.replaceHostnames frame) rfl).bind_pure
  case getDirectoryPosition =>
    exact .some (shadows_onRack Rack.shadows_directoryPosition).bind_pure
  case readAppKey =>
    exact .some (shadows_get_bind fun d => keySession_onto (f := f) (hk rfl) d ▸ .lift _)
  case closeAppKey => exact .some (perform_onto hf .closeKey hk).bind_pure
  case mountAll => exact .some (perform_keyless hf .mountAll rfl).bind_pure
  case hashClear => exact .some (perform_keyless hf .clearDigest rfl).bind_pure
  -- the others only answer what the device holds, or wait for data
  all_goals first
    | exact .none
    | exact .some (shadows_told fun _ => rfl)

/-- An opcode with data does not look at the notes, nor at the open key if it does not handle
keys. -/
theorem answerOpcodeWithData_onto {op : Opcode} (hk : op.handlesKeys → a.key = id) (data : Bytes) :
    Option.Rel (Shadows (a.onto f))
      (answerOpcodeWithData op data : Option (Action (Device W R D) Bytes))
      (answerOpcodeWithData op data) := by
  have hperform : ∀ {β : Type} (x : Except Error β) (o : β → Operation),
      (∀ b, (o b).handlesKeys = false) → Shadows (a.onto f)
        (silently (liftM x >>= fun b => (o b).perform) : Action (Device W R D) Bytes)
        (silently (liftM x >>= fun b => (o b).perform)) :=
    fun _ _ ho => Shadows.bind_pure (.argument fun b => perform_keyless hf _ (ho b))
  have hdigest (clear : Bool) : Shadows (a.onto f)
      (silently (do computeDigest (← byteAt data 0) clear) : Action (Device W R D) Bytes)
      (silently (do computeDigest (← byteAt data 0) clear)) :=
    Shadows.bind_pure (.argument fun b => .argument fun algorithm =>
      perform_keyless hf (.computeDigest algorithm clear) rfl)
  cases op
  case getScanResult => exact .some (.argument fun _ => shadows_told fun _ => rfl)
  case setSsid => exact .some (perform_keyless hf (.setCredentials _ true) rfl).bind_pure
  case mountHost => exact .some (hperform (byteAt data 0) .mountHost fun _ => rfl)
  case unmountHost => exact .some (hperform (byteAt data 0) .unmountHost fun _ => rfl)
  case mountImage =>
    exact .some (Shadows.bind_pure (.argument fun slot => .argument fun mode =>
      perform_keyless hf (.mountImage slot (AccessMode.ofByte mode)) rfl))
  case unmountImage => exact .some (hperform (byteAt data 0) .unmountImage fun _ => rfl)
  case openDirectory =>
    refine .some (Shadows.bind_pure ?_)
    rcases data with _ | ⟨host, rest⟩
    · exact .throw _
    · exact perform_keyless hf (.openDirectory host _ _) rfl
  case readDirEntry =>
    exact .some (.argument fun _ => .argument fun _ =>
      shadows_onRack (Rack.shadows_readDirectory _ _))
  case writeDeviceSlots => exact .some (perform_keyless hf (.replaceDisks data) rfl).bind_pure
  case setDirectoryPosition =>
    refine .some (Shadows.bind_pure ?_)
    rcases data with _ | ⟨low, _ | ⟨high, rest⟩⟩
    · exact .throw _
    · exact .throw _
    · exact perform_keyless hf (.seekDirectory _) rfl
  case setDeviceFullpath =>
    refine .some (Shadows.bind_pure ?_)
    rcases data with _ | ⟨slot, _ | ⟨host, _ | ⟨mode, name⟩⟩⟩
    · exact .throw _
    · exact .throw _
    · exact .throw _
    · exact perform_keyless hf (.setFilename slot host _ _) rfl
  case getDeviceFullpath => exact .some (.argument fun _ => shadows_told_lift fun _ => rfl)
  case writeAppKey => exact .some (perform_onto hf (.writeKey data) hk).bind_pure
  case openAppKey =>
    exact .some (Shadows.bind_pure (.argument fun r => perform_onto hf (.openKey r.toKey) hk))
  case configBoot =>
    exact .some (hperform (byteAt data 0) (fun b => .setConfigBoot (b != 0)) fun _ => rfl)
  case setBootDevice => exact .some (hperform (byteAt data 0) .setBootDevice fun _ => rfl)
  case enableDevice => exact .some (perform_keyless hf (.switchDevices data true) rfl).bind_pure
  case disableDevice => exact .some (perform_keyless hf (.switchDevices data false) rfl).bind_pure
  case hashInput => exact .some (perform_keyless hf (.feedDigest data) rfl).bind_pure
  case hashCompute => exact .some (hdigest true)
  case hashComputeNoClear => exact .some (hdigest false)
  case hashLength => exact .some (.argument fun _ => shadows_told fun _ => rfl)
  case hashOutput => exact .some (.argument fun _ => shadows_told fun _ => rfl)
  -- the others need no data
  all_goals exact .none

theorem setFilenameAnswer_onto (modePlace namePlace : Nat) (l : Line) :
    Shadows (a.onto f) (setFilenameAnswer modePlace namePlace l : Action (Device W R D) Answer)
      (setFilenameAnswer modePlace namePlace l) :=
  .argument fun _ => .argument fun slot => .argument fun host => .argument fun mode =>
    .argument fun name => (perform_keyless hf (.setFilename slot host mode name) rfl).bind_pure

omit [HostStorage W R] [SettingsStore W] [DriveBay D] [DriveBay D'] hf in
theorem writeKeyAnswer_onto (hk : a.key = id) (l : Line) :
    Shadows (a.onto f) (writeKeyAnswer l : Action (Device W R D) Answer) (writeKeyAnswer l) := by
  refine .argument fun _ => .argument fun token => .argument fun length => ?_
  rcases l.bytesFrom 1 with _ | data
  · exact .throw _
  · exact (shadows_onKeySession hk _).bind_pure

/-- A command line does not look at the notes, but for the one that tells the status, nor at the
open key if it does not handle keys. -/
theorem answerLine_onto {command : Command} (hs : command = .status → a.status = id)
    (hk : command.handlesKeys → a.key = id) (l : Line) :
    Shadows (a.onto f) (answerLine command l : Action (Device W R D) Answer)
      (answerLine command l) := by
  have hperform : ∀ {β : Type} (x : Except Error β) (o : β → Operation),
      (∀ b, (o b).handlesKeys = false) → Shadows (a.onto f)
        (replying "ok" (liftM x >>= fun b => (o b).perform) : Action (Device W R D) Answer)
        (replying "ok" (liftM x >>= fun b => (o b).perform)) :=
    fun _ _ ho => Shadows.bind_pure (.argument fun b => perform_keyless hf _ (ho b))
  have hnumber {β : Type} (x : String → Except Error β) (o : β → Operation)
      (ho : ∀ b, (o b).handlesKeys = false) : Shadows (a.onto f)
        (replying "ok" (liftM (parameter l 0) >>= fun token => liftM (x token) >>= fun b =>
          (o b).perform) : Action (Device W R D) Answer)
        (replying "ok" (liftM (parameter l 0) >>= fun token => liftM (x token) >>= fun b =>
          (o b).perform)) :=
    Shadows.bind_pure (.argument fun _ => .argument fun b => perform_keyless hf _ (ho b))
  cases command
  case status =>
    exact shadows_told fun d => congrArg (fun s => Answer.reply (Status.toLine s))
      (congrFun (hs rfl) d.status)
  case adapterConfig => exact .pure _
  case setSsid =>
    exact shadows_get_bind fun _ => .argument fun c =>
      (perform_keyless hf (.setCredentials c true) rfl).bind_pure
  case getSsid => exact shadows_told fun _ => rfl
  case scanResult => exact .argument fun _ => .argument fun _ => shadows_told fun _ => rfl
  case scan => exact Shadows.bind_pure fun _ => rfl
  case wifiEnable => exact (perform_keyless hf (.switchWifi true) rfl).bind_pure
  case wifiDisable => exact (perform_keyless hf (.switchWifi false) rfl).bind_pure
  case wifiStatus => exact shadows_told fun _ => rfl
  case unmountHost => exact hperform (slotParameter l 0) .unmountHost fun _ => rfl
  case mountHost =>
    exact .argument fun slot => (perform_keyless hf (.mountHost slot) rfl).bind fun _ =>
      shadows_told_lift fun _ => rfl
  case unmountDrive => exact hperform (slotParameter l 0) .unmountImage fun _ => rfl
  case mountDrive =>
    exact .argument fun _ => .argument fun slot => .argument fun mode =>
      (shadows_mountImage hf slot mode).bind_pure
  case mountAll => exact (perform_keyless hf .mountAll rfl).bind_pure
  case openDir =>
    exact .argument fun _ => .argument fun slot => .argument fun _ =>
      (perform_keyless hf (.openDirectory slot _ _) rfl).bind_pure
  case readDir =>
    refine .argument fun _ => .argument fun limit => ?_
    rcases l.param 1 with _ | token
    · exact (shadows_onRack (Rack.shadows_readDirectory _ _)).bind_pure
    · exact .argument fun _ => (shadows_onRack (Rack.shadows_readDirectory _ _)).bind_pure
  case closeDir => exact (perform_keyless hf .closeDirectory rfl).bind_pure
  case getDirPos =>
    exact (shadows_onRack Rack.shadows_directoryPosition).bind fun _ => .guard (.pure _)
  case setDirPos => exact hnumber _ .seekDirectory fun _ => rfl
  case getHost => exact .argument fun _ => shadows_told_lift fun _ => rfl
  case putHost => exact hperform (slotParameter l 0) (fun slot => .nameHost slot _) fun _ => rfl
  case setDriveFilename => exact setFilenameAnswer_onto hf 2 3 l
  case getDriveFilename => exact .argument fun _ => shadows_told_lift fun _ => rfl
  case getDrive => exact .argument fun _ => shadows_told_lift fun _ => rfl
  case putDrive => exact setFilenameAnswer_onto hf 3 2 l
  case writeAppKey => exact writeKeyAnswer_onto (hk rfl) l
  case readAppKey =>
    exact shadows_told_lift fun d => congrArg KeySession.read (keySession_onto (hk rfl) d)
  case openAppKey =>
    exact Shadows.bind_pure (.argument fun key => perform_onto hf (.openKey key) hk)
  case closeAppKey => exact (perform_onto hf .closeKey hk).bind_pure
  case bootConfig => exact hnumber _ (fun b => .setConfigBoot (b != 0)) fun _ => rfl
  case bootMode => exact hnumber _ .setBootDevice fun _ => rfl
  case localIp => exact shadows_told fun _ => rfl
  case reset => exact (perform_keyless hf .reboot rfl).bind_pure
  case enableDevice =>
    exact hperform (devicesOf l) (fun devices => .switchDevices devices true) fun _ => rfl
  case disableDevice =>
    exact hperform (devicesOf l) (fun devices => .switchDevices devices false) fun _ => rfl

end Blind

/-! ### On the same drives -/

section Retouch

variable {a : Retouch} [HostStorage W R] [SettingsStore W] [KeyStorage W] [DriveBay D]

theorem perform_retouch (o : Operation) (hk : o.handlesKeys → a.key = id) :
    Commutes a.apply (o.perform : Action (Device W R D) Unit) := perform_onto .refl o hk

omit [HostStorage W R] [SettingsStore W] [KeyStorage W] [DriveBay D] in
theorem commutes_of_rel {α : Type} {x : Option (Action (Device W R D) α)}
    (h : Option.Rel (Shadows (a.onto id)) x x) {act : Action (Device W R D) α}
    (hx : x = some act) : Commutes a.apply act := by
  subst hx
  cases h with
  | some h => exact h

theorem answerOpcode_retouch {op : Opcode} (hs : op = .status → a.status = id)
    (hk : op.handlesKeys → a.key = id) {frame : Bytes} {act : Action (Device W R D) Bytes}
    (h : answerOpcode op frame = some act) : Commutes a.apply act :=
  commutes_of_rel (answerOpcode_onto .refl hs hk frame) h

theorem answerOpcodeWithData_retouch {op : Opcode} (hk : op.handlesKeys → a.key = id) {data : Bytes}
    {act : Action (Device W R D) Bytes} (h : answerOpcodeWithData op data = some act) :
    Commutes a.apply act :=
  commutes_of_rel (answerOpcodeWithData_onto .refl hk data) h

theorem answerLine_retouch {command : Command} (hs : command = .status → a.status = id)
    (hk : command.handlesKeys → a.key = id) (l : Line) :
    Commutes a.apply (answerLine command l : Action (Device W R D) Answer) :=
  answerLine_onto .refl hs hk l

end Retouch

end StorageAdapter
