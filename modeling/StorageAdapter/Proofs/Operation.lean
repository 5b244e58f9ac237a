import StorageAdapter.Proofs.Answers

/-! # Operations

What can be asked of a device, as data: the operations that may change it, whether they are called
directly or come in a frame. What answers a command does to the device what the operation does that
the command asks for (`serves_answerOpcode`, `serves_answerOpcodeWithData`, `serves_answerLine`);
commands that only tell something ask for none. -/

namespace StorageAdapter

open StorageAdapter.Action StorageAdapter.Device

/-- What can be asked of a device and may change it. -/
inductive Operation where
  | save
  | reboot
  | scan
  | setCredentials (c : Credentials) (store : Bool)
  | switchWifi (enabled : Bool)
  | setConfigBoot (enabled : Bool)
  | setBootDevice (device : UInt8)
  | switchDevices (devices : List UInt8) (active : Bool)
  | mountHost (slot : UInt8)
  | unmountHost (slot : UInt8)
  | nameHost (slot : UInt8) (name : String)
  | replaceHostnames (payload : Bytes)
  | mountImage (slot : UInt8) (mode : AccessMode)
  | unmountImage (slot : UInt8)
  | mountAll
  | setFilename (slot host : UInt8) (mode : AccessMode) (filename : String)
  | replaceDisks (payload : Bytes)
  | openDirectory (slot : UInt8) (path : String) (pattern : Option String)
  | readDirectory (limit options : UInt8)
  | directoryPosition
  | seekDirectory (position : UInt16)
  | closeDirectory
  | openKey (key : AppKey)
  | writeKey (data : Bytes)
  | closeKey
  | feedDigest (data : Bytes)
  | computeDigest (algorithm : DigestAlgorithm) (clear : Bool)
  | clearDigest
deriving DecidableEq, Repr

variable {W R D : Type} [HostStorage W R] [SettingsStore W] [KeyStorage W] [DriveBay D]

/-- What an operation does; the value that it may yield is dropped. -/
def Operation.perform : Operation → Action (Device W R D) Unit
  | save => Device.save
  | reboot => Device.reboot
  | scan => do let _ ← Device.scan
  | setCredentials c store => Device.setCredentials c store
  | switchWifi enabled => Device.switchWifi enabled
  | setConfigBoot enabled => Device.setConfigBoot enabled
  | setBootDevice device => Device.setBootDevice device
  | switchDevices devices active => Device.switchDevices devices active
  | mountHost slot => Device.mountHost slot
  | unmountHost slot => Device.unmountHost slot
  | nameHost slot name => Device.nameHost slot name
  | replaceHostnames payload => Device.replaceHostnames payload
  | mountImage slot mode => do let _ ← Device.mountImage slot mode
  | unmountImage slot => Device.unmountImage slot
  | mountAll => Device.mountAll
  | setFilename slot host mode filename => Device.setFilename slot host mode filename
  | replaceDisks payload => Device.replaceDisks payload
  | openDirectory slot path pattern => onRack (Rack.openDirectory slot path pattern)
  | readDirectory limit options => do let _ ← onRack (Rack.readDirectory limit options)
  | directoryPosition => do let _ ← onRack Rack.directoryPosition
  | seekDirectory position => onRack (Rack.seekDirectory position)
  | closeDirectory => onRack (modify Rack.closeDirectory)
  | openKey key => modify fun d => { d with appKey := key }
  | writeKey data => do let _ ← onKeySession (KeySession.write data)
  | closeKey => modify fun d => { d with appKey := d.appKey.closed }
  | feedDigest data => modify fun d => { d with digest := d.digest.feed data }
  | computeDigest algorithm clear =>
    modify fun d => { d with digest := d.digest.compute d.digester algorithm clear }
  | clearDigest => modify fun d => { d with digest := {} }

/-! ### What commands ask for -/

/-- What a command asks for: an operation, nothing that could change the device, or, with
arguments that are refused, only an error. -/
abbrev Request := Except Error (Option Operation)

/-- Does what is asked for. -/
def Request.serve : Request → Action (Device W R D) Unit
  | .ok (some o) => o.perform
  | .ok none => pure ()
  | .error e => throw e

/-- What an opcode asks for, with the frame of data behind it or, if it needs none, with its own
frame. -/
def Opcode.request (op : Opcode) (data : Bytes) : Request :=
  match op with
  | reset => .ok (some .reboot)
  | scan => .ok (some .scan)
  | closeDirectory => .ok (some .closeDirectory)
  | writeHostSlots => .ok (some (.replaceHostnames data))
  | getDirectoryPosition => .ok (some .directoryPosition)
  | closeAppKey => .ok (some .closeKey)
  | mountAll => .ok (some .mountAll)
  | hashClear => .ok (some .clearDigest)
  | setSsid => .ok (some (.setCredentials (.ofRequest data) true))
  | mountHost => do return some (.mountHost (← byteAt data 0))
  | unmountHost => do return some (.unmountHost (← byteAt data 0))
  | mountImage => do
    let slot ← byteAt data 0
    let mode ← byteAt data 1
    return some (.mountImage slot (AccessMode.ofByte mode))
  | unmountImage => do return some (.unmountImage (← byteAt data 0))
  | openDirectory =>
    match data with
    | [] => .error .parameterCount
    | host :: rest => .ok (some (.openDirectory host (Text.ofField rest)
        ((Bytes.afterNul rest).map Text.ofField)))
  | readDirEntry => do
    let limit ← byteAt data 0
    let options ← byteAt data 1
    return some (.readDirectory limit options)
  | writeDeviceSlots => .ok (some (.replaceDisks data))
  | setDirectoryPosition =>
    match data with
    | low :: high :: _ => .ok (some (.seekDirectory (Bytes.word low high)))
    | _ => .error .parameterCount
  | setDeviceFullpath =>
    match data with
    | slot :: host :: mode :: name =>
      .ok (some (.setFilename slot host (AccessMode.ofByte mode) (Text.ofField name)))
    | _ => .error .parameterCount
  | writeAppKey => .ok (some (.writeKey data))
  | openAppKey => do return some (.openKey (← KeyRequest.decode data).toKey)
  | configBoot => do return some (.setConfigBoot ((← byteAt data 0) != 0))
  | setBootDevice => do return some (.setBootDevice (← byteAt data 0))
  | enableDevice => .ok (some (.switchDevices data true))
  | disableDevice => .ok (some (.switchDevices data false))
  | hashInput => .ok (some (.feedDigest data))
  | hashCompute => do
    return some (.computeDigest (← DigestAlgorithm.ofByte (← byteAt data 0)) true)
  | hashComputeNoClear => do
    return some (.computeDigest (← DigestAlgorithm.ofByte (← byteAt data 0)) false)
  | _ => .ok none

/-- What a line asks for that points a disk slot at a file. -/
def Line.filenameRequest (modePlace namePlace : Nat) (l : Line) : Request := do
  atLeast 4 l
  let slot ← slotParameter l 0
  let host ← slotParameter l 1
  let mode ← modeParameter l modePlace
  let name ← parameter l namePlace
  return some (.setFilename slot host mode name)

/-- What a command line asks for. A network may be named by a checksum of the last scan. -/
def Command.request (command : Command) (l : Line) (d : Device W R D) : Request :=
  match command with
  | setSsid => do return some (.setCredentials (← credentialsOf l d) true)
  | scan => .ok (some .scan)
  | wifiEnable => .ok (some (.switchWifi true))
  | wifiDisable => .ok (some (.switchWifi false))
  | unmountHost => do return some (.unmountHost (← slotParameter l 0))
  | mountHost => do return some (.mountHost (← slotParameter l 0))
  | unmountDrive => do return some (.unmountImage (← slotParameter l 0))
  | mountDrive => do
    atLeast 2 l
    let slot ← slotParameter l 0
    let mode ← modeParameter l 1
    return some (.mountImage slot mode)
  | mountAll => .ok (some .mountAll)
  | openDir => do
    atLeast 2 l
    let slot ← slotParameter l 0
    let place := Text.splitPath '~' (← parameter l 1)
    return some (.openDirectory slot place.1 (some place.2))
  | readDir => do
    let limit ← Text.byteArgument "invalid length" (← parameter l 0)
    let options ← match l.param 1 with
      | some token => Text.byteArgument "invalid options" token
      | none => .ok 0
    return some (.readDirectory limit options)
  | closeDir => .ok (some .closeDirectory)
  | getDirPos => .ok (some .directoryPosition)
  | setDirPos => do
    return some (.seekDirectory
      (← Text.wordArgument "invalid directory position" (← parameter l 0)))
  | putHost => do return some (.nameHost (← slotParameter l 0) ((l.param 1).getD ""))
  | setDriveFilename => l.filenameRequest 2 3
  | putDrive => l.filenameRequest 3 2
  | writeAppKey => do
    atLeast 2 l
    let length ← Text.byteArgument "invalid key length" (← parameter l 0)
    match l.bytesFrom 1 with
    | some data => return some (.writeKey (data.take (min length.toNat AppKey.limit)))
    | none => throw .parameterCount
  | openAppKey => do return some (.openKey (← keyOf l))
  | closeAppKey => .ok (some .closeKey)
  | bootConfig => do
    return some
      (.setConfigBoot ((← Text.byteArgument "invalid boot config" (← parameter l 0)) != 0))
  | bootMode => do
    return some (.setBootDevice (← Text.byteArgument "invalid boot mode" (← parameter l 0)))
  | reset => .ok (some .reboot)
  | enableDevice => do return some (.switchDevices (← devicesOf l) true)
  | disableDevice => do return some (.switchDevices (← devicesOf l) false)
  | _ => .ok none

/-- What a frame asks for. Nothing is asked for by an empty frame, an opcode that waits for its
data, an unknown opcode or an unknown keyword. -/
def Device.asked (payload : Bytes) (d : Device W R D) : Request :=
  match (d.pending.decode payload).1 with
  | .opened op => if op.needsNoData then op.request payload else .ok none
  | .data op data => if op.needsNoData then .ok none else op.request data
  | .line l =>
    match l.command with
    | some command => command.request l d
    | none => .ok none
  | .empty | .unknown _ => .ok none

/-! ### Serving a request -/

/-- Whether a command with this request tells something: it may fail although there was nothing to
do or what it asked for succeeded. -/
def Request.tells : Request → Bool
  | .ok none | .ok (some .directoryPosition) => true
  | _ => false

section Serving

variable {α β : Type}

/-- On a device, the action leaves what doing what is asked for leaves, it succeeds only if that
does, and unless it tells something, it fails only if that does. -/
structure ServesAt (d : Device W R D) (r : Request) (act : Action (Device W R D) α) : Prop where
  after_eq : act.after d = r.serve.after d
  ok : ∀ {a e}, act d = .ok a e → r.serve d = .ok () e
  error : r.tells = false → ∀ {err e}, act d = .error err e → r.serve d = .error err e

/-- The action serves the request on every device. -/
def Serves (r : Request) (act : Action (Device W R D) α) : Prop := ∀ d, ServesAt d r act

theorem Serves.perform (o : Operation) :
    Serves (.ok (some o)) (o.perform : Action (Device W R D) Unit) := fun _ =>
  ⟨rfl, id, fun _ _ _ => id⟩

theorem Serves.refused (e : Error) :
    Serves (.error e) (throw e : Action (Device W R D) α) := by
  intro d
  refine ⟨rfl, nofun, fun _ err t h => ?_⟩
  cases h
  rfl

theorem ServesAt.get_bind {d : Device W R D} {r : Request}
    {f : Device W R D → Action (Device W R D) α} (h : ServesAt d r (f d)) :
    ServesAt d r ((get : Action (Device W R D) _) >>= f) := ⟨h.after_eq, h.ok, h.error⟩

/-- An operation that drops the value of an action does what the action does. -/
theorem Serves.valued {o : Operation} {act : Action (Device W R D) α}
    (h : o.perform = (do let _ ← act)) : Serves (.ok (some o)) act := by
  intro d
  have hserve : (Request.serve (.ok (some o)) : Action (Device W R D) Unit) d =
      (do let _ ← act : Action (Device W R D) Unit) d := congrFun h d
  refine ⟨?_, fun {a e} ha => ?_, fun _ err e ha => ?_⟩
  · show act.after d = o.perform.after d
    rw [h, after_bind_pure]
  · rw [hserve, bind_apply, ha]
    rfl
  · rw [hserve, bind_apply, ha]

/-- What only looks at the device afterwards changes nothing. -/
theorem Serves.reading {r : Request} {act : Action (Device W R D) α} (h : Serves r act)
    {f : α → Action (Device W R D) β} (hf : ∀ a d, (f a).after d = d)
    (hok : r.tells = false → ∀ {a d e}, act d = .ok a e → ∃ b t, f a e = .ok b t) :
    Serves r (act >>= f) := by
  intro d
  refine ⟨?_, fun {b e} hb => ?_, fun hr err e he => ?_⟩
  · rw [after_bind, ← (h d).after_eq]
    unfold after
    rcases act d with ⟨a, t⟩ | ⟨e, t⟩
    · exact hf a t
    · rfl
  · rw [bind_apply] at hb
    rcases ha : act d with ⟨a, t⟩ | ⟨e, t⟩ <;> simp only [ha] at hb
    · have ht := hf a t
      unfold after at ht
      rw [hb] at ht
      exact ((h d).ok ha).trans (congrArg _ ht.symm)
    · cases hb
  · rw [bind_apply] at he
    rcases ha : act d with ⟨a, t⟩ | ⟨e', t⟩ <;> simp only [ha] at he
    · obtain ⟨b, u, hb⟩ := hok hr ha
      rw [hb] at he
      cases he
    · cases he
      exact (h d).error hr ha

theorem Serves.value {r : Request} {act : Action (Device W R D) α} (h : Serves r act) (f : α → β) :
    Serves r (act >>= fun a => pure (f a)) :=
  h.reading (fun _ _ => rfl) fun _ _ _ _ _ => ⟨_, _, rfl⟩

theorem Serves.silently {r : Request} {act : Action (Device W R D) Unit} (h : Serves r act) :
    Serves r (silently act) := h.value _

theorem Serves.replying {r : Request} {act : Action (Device W R D) Unit} (h : Serves r act)
    (s : String) : Serves r (replying s act) := h.value _

theorem Serves.argument {γ : Type} {x : Except Error γ} {k : γ → Request}
    {f : γ → Action (Device W R D) α} (h : ∀ a, Serves (k a) (f a)) :
    Serves (x >>= k) (liftM x >>= f) := by
  rcases x with e | a
  · exact Serves.refused e
  · exact h a

theorem Serves.nothing {act : Action (Device W R D) α} (h : ∀ d, act.after d = d) :
    Serves (.ok none) act := by
  intro d
  refine ⟨h d, fun {a e} ha => ?_, nofun⟩
  have h := h d
  unfold after at h
  rw [ha] at h
  exact congrArg _ h.symm

/-- A command that only tells something has nothing to do, whatever its arguments. -/
theorem Serves.telling {γ : Type} {x : Except Error γ} {f : γ → Action (Device W R D) α}
    (h : ∀ a, Serves (.ok none) (f a)) : Serves (.ok none) (liftM x >>= f) := by
  rcases x with e | a
  · exact Serves.nothing fun _ => rfl
  · exact h a

theorem Serves.told {γ : Type} (x : Device W R D → Except Error γ) (f : γ → α) :
    Serves (.ok none) (get >>= fun d => liftM (x d) >>= fun a => pure (f a)) := by
  refine Serves.nothing fun d => ?_
  rw [after_get_bind]
  rcases x d with e | a <;> rfl

/-! ### Opcodes -/

/-- An opcode runs on its own frame if and only if the table says that it needs no data. -/
theorem isSome_runOpcode (op : Opcode) (frame : Bytes) :
    (runOpcode op frame : Option (Action (Device W R D) Unit)).isSome = op.needsNoData := by
  cases op <;> rfl

/-- The opcodes that do not run on their own frames run on the data behind them. -/
theorem isSome_runOpcodeWithData (op : Opcode) (data : Bytes) :
    (runOpcodeWithData op data : Option (Action (Device W R D) Unit)).isSome =
      !op.needsNoData := by
  cases op <;> rfl

theorem isSome_answerOpcode (op : Opcode) (frame : Bytes) :
    (answerOpcode op frame : Option (Action (Device W R D) Bytes)).isSome = op.needsNoData := by
  cases op <;> rfl

theorem isSome_answerOpcodeWithData (op : Opcode) (data : Bytes) :
    (answerOpcodeWithData op data : Option (Action (Device W R D) Bytes)).isSome =
      !op.needsNoData := by
  cases op <;> rfl

/-- An opcode with data is answered if and only if the table says that it needs data. -/
theorem answerOpcodeWithData_cases (op : Opcode) (data : Bytes) :
    op.needsNoData = true ∧
        (answerOpcodeWithData op data : Option (Action (Device W R D) Bytes)) = none ∨
      ∃ act : Action (Device W R D) Bytes,
        op.needsNoData = false ∧ answerOpcodeWithData op data = some act := by
  have h := isSome_answerOpcodeWithData (W := W) (R := R) (D := D) op data
  rcases hact : (answerOpcodeWithData op data : Option (Action (Device W R D) Bytes))
    with _ | act <;> rw [hact] at h
  · exact .inl ⟨by simpa using h, rfl⟩
  · exact .inr ⟨act, by simpa using h, rfl⟩

theorem serves_answerOpcode {op : Opcode} {frame : Bytes} {act : Action (Device W R D) Bytes}
    (h : answerOpcode op frame = some act) : Serves (op.request frame) act := by
  cases op <;> simp only [answerOpcode, Option.some.injEq, reduceCtorEq] at h
  all_goals subst h
  case reset => exact (Serves.perform .reboot).silently
  case scan => exact (Serves.valued rfl).value _
  case closeDirectory => exact (Serves.perform .closeDirectory).silently
  case writeHostSlots => exact (Serves.perform (.replaceHostnames frame)).silently
  case getDirectoryPosition => exact (Serves.valued rfl).value _
  case readAppKey =>
    refine Serves.nothing fun d => ?_
    rw [after_get_bind]
    rcases d.keySession.read with e | data <;> rfl
  case closeAppKey => exact (Serves.perform .closeKey).silently
  case mountAll => exact (Serves.perform .mountAll).silently
  case hashClear => exact (Serves.perform .clearDigest).silently
  -- the others only answer what the device holds
  all_goals exact Serves.nothing fun _ => rfl

theorem serves_answerOpcodeWithData {op : Opcode} {data : Bytes} {act : Action (Device W R D) Bytes}
    (h : answerOpcodeWithData op data = some act) : Serves (op.request data) act := by
  cases op <;> simp only [answerOpcodeWithData, Option.some.injEq, reduceCtorEq] at h
  all_goals subst h
  case setSsid => exact (Serves.perform (.setCredentials _ true)).silently
  case mountHost => exact (Serves.argument fun slot => .perform (.mountHost slot)).silently
  case unmountHost => exact (Serves.argument fun slot => .perform (.unmountHost slot)).silently
  case mountImage =>
    refine (Serves.argument fun slot => Serves.argument fun mode => ?_).silently
    exact (Serves.valued (o := .mountImage slot (AccessMode.ofByte mode)) rfl).value _
  case unmountImage => exact (Serves.argument fun slot => .perform (.unmountImage slot)).silently
  case openDirectory =>
    refine Serves.silently ?_
    rcases data with _ | ⟨host, rest⟩
    · exact Serves.refused _
    · exact Serves.perform (.openDirectory host _ _)
  case readDirEntry =>
    exact Serves.argument fun limit => Serves.argument fun options => Serves.valued rfl
  case writeDeviceSlots => exact (Serves.perform (.replaceDisks data)).silently
  case setDirectoryPosition =>
    refine Serves.silently ?_
    rcases data with _ | ⟨low, _ | ⟨high, rest⟩⟩
    · exact Serves.refused _
    · exact Serves.refused _
    · exact Serves.perform (.seekDirectory _)
  case setDeviceFullpath =>
    refine Serves.silently ?_
    rcases data with _ | ⟨slot, _ | ⟨host, _ | ⟨mode, name⟩⟩⟩
    · exact Serves.refused _
    · exact Serves.refused _
    · exact Serves.refused _
    · exact Serves.perform (.setFilename slot host _ _)
  case getDeviceFullpath =>
    exact Serves.telling fun slot => Serves.told (fun d => d.filename slot) filenameBytes
  case writeAppKey => exact ((Serves.valued (o := .writeKey data) rfl).value _).silently
  case openAppKey =>
    exact (Serves.argument fun r : KeyRequest => .perform (.openKey r.toKey)).silently
  case configBoot => exact (Serves.argument fun b => .perform (.setConfigBoot (b != 0))).silently
  case setBootDevice => exact (Serves.argument fun b => .perform (.setBootDevice b)).silently
  case enableDevice => exact (Serves.perform (.switchDevices data true)).silently
  case disableDevice => exact (Serves.perform (.switchDevices data false)).silently
  case hashInput => exact (Serves.perform (.feedDigest data)).silently
  case hashCompute =>
    refine (Serves.argument fun b => Serves.argument fun algorithm => ?_).silently
    exact Serves.perform (.computeDigest algorithm true)
  case hashComputeNoClear =>
    refine (Serves.argument fun b => Serves.argument fun algorithm => ?_).silently
    exact Serves.perform (.computeDigest algorithm false)
  -- the others only answer what the device holds
  all_goals exact Serves.telling fun _ => Serves.nothing fun _ => rfl

/-! ### Command lines -/

/-- A host is mounted in a slot only if there is such a slot. -/
theorem exists_hostIndex_of_mountHost {slot : UInt8} {u : Unit} {d e : Device W R D}
    (h : (Operation.mountHost slot).perform d = .ok u e) : ∃ i, Rack.hostIndex slot = .ok i := by
  rcases hi : Rack.hostIndex slot with err | i
  · have h : Device.mountHost slot d = .ok u e := h
    unfold Device.mountHost at h
    rw [hi] at h
    cases h
  · exact ⟨i, rfl⟩

omit [HostStorage W R] [SettingsStore W] [KeyStorage W] [DriveBay D] in
theorem hostname_of_hostIndex {slot : UInt8} {i : Fin 8} (h : Rack.hostIndex slot = .ok i)
    (d : Device W R D) : d.hostname slot = .ok (d.rack.hosts.get i).hostname := by
  unfold Device.hostname Rack.host
  rw [h]
  rfl

theorem serves_setFilenameAnswer (modePlace namePlace : Nat) (l : Line) :
    Serves (l.filenameRequest modePlace namePlace)
      (setFilenameAnswer modePlace namePlace l : Action (Device W R D) Answer) :=
  Serves.argument fun _ => Serves.argument fun slot => Serves.argument fun host =>
    Serves.argument fun mode => Serves.argument fun name =>
      (Serves.perform (.setFilename slot host mode name)).replying "ok"

theorem serves_readEntryAnswer (l : Line) (d : Device W R D) :
    Serves (Command.readDir.request l d) (readEntryAnswer l : Action (Device W R D) Answer) := by
  have h (limit options : UInt8) := (Serves.valued (W := W) (R := R) (D := D)
    (o := .readDirectory limit options) rfl).value fun data => (⟨data, ""⟩ : Answer)
  refine Serves.argument fun token => Serves.argument fun limit => ?_
  rcases l.param 1 with _ | options
  · exact h limit 0
  · exact Serves.argument fun options => h limit options

theorem serves_writeKeyAnswer (l : Line) (d : Device W R D) :
    Serves (Command.writeAppKey.request l d) (writeKeyAnswer l : Action (Device W R D) Answer) := by
  refine Serves.argument fun _ => Serves.argument fun token => Serves.argument fun length => ?_
  rcases l.bytesFrom 1 with _ | data
  · exact Serves.refused _
  · exact (Serves.valued (o := .writeKey _) rfl).value _

/-- A command line does what it asks for on the device that it meets. -/
theorem serves_answerLine (command : Command) (l : Line) (d : Device W R D) :
    ServesAt d (command.request l d) (answerLine command l) := by
  cases command
  case setSsid =>
    refine ServesAt.get_bind ?_
    exact Serves.argument (fun c => (Serves.perform (.setCredentials c true)).value _) d
  case scan => exact (Serves.valued rfl).value _ d
  case wifiEnable => exact (Serves.perform (.switchWifi true)).replying "ok" d
  case wifiDisable => exact (Serves.perform (.switchWifi false)).replying "ok" d
  case unmountHost =>
    exact (Serves.argument fun slot => .perform (.unmountHost slot)).replying "ok" d
  case mountHost =>
    refine Serves.argument (fun slot => (Serves.perform (.mountHost slot)).reading ?_ ?_) d
    · exact fun _ e => (Serves.told (fun d => d.hostname slot)
        (fun name => Answer.reply (name ++ " MOUNTED.")) e).after_eq
    · intro _ a d e he
      obtain ⟨i, hi⟩ := exists_hostIndex_of_mountHost he
      exact ⟨.reply ((e.rack.hosts.get i).hostname ++ " MOUNTED."), e, by
        rw [bind_apply, get_apply]
        simp only [hostname_of_hostIndex hi]
        rfl⟩
  case unmountDrive =>
    exact (Serves.argument fun slot => .perform (.unmountImage slot)).replying "ok" d
  case mountDrive =>
    refine Serves.argument (fun _ => Serves.argument fun slot => Serves.argument fun mode => ?_) d
    exact (Serves.valued (o := .mountImage slot mode) rfl).value _
  case mountAll => exact (Serves.perform .mountAll).replying "ok" d
  case openDir =>
    refine Serves.argument (fun _ => Serves.argument fun slot => Serves.argument fun place => ?_) d
    exact (Serves.perform (.openDirectory slot (Text.splitPath '~' place).1
      (some (Text.splitPath '~' place).2))).value _
  case readDir => exact serves_readEntryAnswer l d d
  case closeDir => exact (Serves.perform .closeDirectory).replying "ok" d
  case getDirPos =>
    refine (Serves.valued (o := .directoryPosition) rfl).reading (fun position d => ?_) nofun d
    split <;> rfl
  case setDirPos =>
    exact (Serves.argument fun token => Serves.argument fun position =>
      .perform (.seekDirectory position)).replying "ok" d
  case putHost =>
    exact (Serves.argument fun slot => .perform (.nameHost slot _)).replying "ok" d
  case setDriveFilename => exact serves_setFilenameAnswer 2 3 l d
  case putDrive => exact serves_setFilenameAnswer 3 2 l d
  case writeAppKey => exact serves_writeKeyAnswer l d d
  case openAppKey => exact (Serves.argument fun key => .perform (.openKey key)).replying "ok" d
  case closeAppKey => exact (Serves.perform .closeKey).replying "ok" d
  case bootConfig =>
    exact (Serves.argument fun token => Serves.argument fun value =>
      .perform (.setConfigBoot (value != 0))).replying "ok" d
  case bootMode =>
    exact (Serves.argument fun token => Serves.argument fun device =>
      .perform (.setBootDevice device)).replying "ok" d
  case reset => exact (Serves.perform .reboot).value _ d
  case enableDevice =>
    exact (Serves.argument fun devices => .perform (.switchDevices devices true)).replying "ok" d
  case disableDevice =>
    exact (Serves.argument fun devices => .perform (.switchDevices devices false)).replying "ok" d
  case scanResult =>
    refine Serves.telling (fun token => ?_) d
    exact Serves.telling fun _ => Serves.nothing fun _ => rfl
  case getHost =>
    refine Serves.telling (fun slot => ?_) d
    exact Serves.told (fun d => d.hostname slot) fun name =>
      Answer.text (if name = "" then "<empty>" else name)
  case getDriveFilename =>
    refine Serves.telling (fun slot => ?_) d
    exact Serves.told (fun d => d.filename slot) Answer.text
  case getDrive =>
    refine Serves.telling (fun slot => ?_) d
    exact Serves.told (fun d => d.filename slot) fun name => Answer.text (Text.lastComponent name)
  case readAppKey =>
    exact Serves.told (fun d => d.keySession.read) (fun data => ({ data } : Answer)) d
  -- the others only answer what the device holds
  all_goals exact Serves.nothing (fun _ => rfl) d

end Serving

end StorageAdapter
