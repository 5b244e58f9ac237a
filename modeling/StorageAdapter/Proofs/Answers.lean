import StorageAdapter.Device.Dispatch
import StorageAdapter.Proofs.Action

/-! # What commands answer

A command leaves for its caller what it puts into a buffer and what it notes on the status channel
while it runs. Here is each command as an action that yields this as its value and leaves nothing:
`answerOpcode`, `answerOpcodeWithData` and `answerLine`. The commands do just that and then leave
the value, if there is one, for callers of their own kind; they leave nothing before that and
nothing for callers of the other kind (`leavesBinary_runOpcode`, `leavesBinary_runOpcodeWithData`,
`leavesText_runLine`). -/

namespace StorageAdapter

open StorageAdapter.Action

namespace Device

variable {W R D : Type}

/-! ### Answers -/

/-- What a command leaves for its caller. -/
structure Answer where
  /-- What the caller reads. -/
  data : Bytes := []
  /-- The message left on the status channel. -/
  message : String := "ok"
deriving DecidableEq, Repr

namespace Answer

/-- A text to read. -/
def text (s : String) : Answer := { data := Text.encode s }

/-- A text to read that is left as the message, too. -/
def reply (s : String) : Answer := { data := Text.encode s, message := s }

end Answer

/-- An action that answers nothing. -/
def silently (act : Action (Device W R D) Unit) : Action (Device W R D) Bytes := do
  act
  return []

/-- An action that only answers what the device holds. -/
def answering (answer : Device W R D → Bytes) : Action (Device W R D) Bytes :=
  return answer (← get)

/-- An action that is answered by a text, which is left as the message, too. -/
def replying (s : String) (act : Action (Device W R D) Unit) : Action (Device W R D) Answer := do
  act
  return .reply s

variable [HostStorage W R] [SettingsStore W] [KeyStorage W] [DriveBay D]

/-! ### Opcodes -/

/-- What an opcode answers on its own frame, for those that need no data. -/
def answerOpcode (op : Opcode) (frame : Bytes) : Option (Action (Device W R D) Bytes) :=
  match op with
  | .reset => some (silently reboot)
  | .getSsid => some (answering fun d => d.credentials.toBlock)
  | .scan => some do return [← scan]
  | .getWifiStatus => some (answering fun d => [d.wifiStatusByte])
  | .getWifiEnabled => some (answering fun d => [Status.flag d.settings.wifi.enabled])
  | .closeDirectory => some (silently (onRack (modify Rack.closeDirectory)))
  | .readHostSlots => some (answering hostnameBlock)
  | .writeHostSlots => some (silently (replaceHostnames frame))
  | .readDeviceSlots => some (answering diskBlock)
  | .getAdapterConfig => some (answering fun d => d.adapterConfig.toBlock)
  | .getAdapterConfigExtended => some (answering fun d => d.adapterConfig.toExtendedBlock)
  | .getDirectoryPosition => some do return Bytes.ofWord (← onRack Rack.directoryPosition)
  | .readAppKey => some do return ← KeySession.read (← get).keySession
  | .closeAppKey => some (silently (modify fun d => { d with appKey := d.appKey.closed }))
  | .status => some (answering fun d => d.status.toBytes)
  | .mountAll => some (silently mountAll)
  | .hashClear => some (silently (modify fun d => { d with digest := {} }))
  | _ => none

/-- What an opcode answers on the frame of data behind it, for those that need data. -/
def answerOpcodeWithData (op : Opcode) (data : Bytes) : Option (Action (Device W R D) Bytes) :=
  match op with
  | .getScanResult => some do
    let index ← byteAt data 0
    return ((← get).scanResult index).toBlock
  | .setSsid => some (silently (setCredentials (.ofRequest data) true))
  | .mountHost => some (silently do mountHost (← byteAt data 0))
  | .unmountHost => some (silently do unmountHost (← byteAt data 0))
  | .mountImage => some (silently do
    let slot ← byteAt data 0
    let mode ← byteAt data 1
    let _ ← mountImage slot (AccessMode.ofByte mode))
  | .unmountImage => some (silently do unmountImage (← byteAt data 0))
  | .openDirectory => some (silently (openDirectoryOf data))
  | .readDirEntry => some do
    let limit ← byteAt data 0
    let options ← byteAt data 1
    onRack (Rack.readDirectory limit options)
  | .writeDeviceSlots => some (silently (replaceDisks data))
  | .setDirectoryPosition => some (silently (seekDirectoryOf data))
  | .setDeviceFullpath => some (silently (setFilenameOf data))
  | .getDeviceFullpath => some do
    let slot ← byteAt data 0
    return filenameBytes (← (← get).filename slot)
  | .writeAppKey => some (silently do
    let _ ← onKeySession (KeySession.write data))
  | .openAppKey => some (silently do
    let request ← KeyRequest.decode data
    modify fun d => { d with appKey := request.toKey })
  | .configBoot => some (silently do setConfigBoot ((← byteAt data 0) != 0))
  | .setBootDevice => some (silently do setBootDevice (← byteAt data 0))
  | .enableDevice => some (silently (switchDevices data true))
  | .disableDevice => some (silently (switchDevices data false))
  | .hashInput => some (silently (modify fun d => { d with digest := d.digest.feed data }))
  | .hashCompute => some (silently do computeDigest (← byteAt data 0) true)
  | .hashComputeNoClear => some (silently do computeDigest (← byteAt data 0) false)
  | .hashLength => some do
    let asHex ← asksForHex data
    return [(← get).digest.length asHex]
  | .hashOutput => some do
    let asHex ← asksForHex data
    return (← get).digest.result asHex
  | _ => none

/-! ### Lines -/

/-- The answer to a line that mounts a host. -/
def mountHostAnswer (l : Line) : Action (Device W R D) Answer := do
  let slot ← slotParameter l 0
  mountHost slot
  return .reply ((← (← get).hostname slot) ++ " MOUNTED.")

/-- The answer to a line that opens a listing. -/
def openDirectoryAnswer (l : Line) : Action (Device W R D) Answer := do
  atLeast 2 l
  let slot ← slotParameter l 0
  let (path, pattern) := Text.splitPath '~' (← parameter l 1)
  onRack (Rack.openDirectory slot path (some pattern))
  return {}

/-- The answer to a line that reads an entry. -/
def readEntryAnswer (l : Line) : Action (Device W R D) Answer := do
  let limit ← Text.byteArgument "invalid length" (← parameter l 0)
  let options ← match l.param 1 with
    | some token => Text.byteArgument "invalid options" token
    | none => .ok 0
  return { data := ← onRack (Rack.readDirectory limit options), message := "" }

/-- The answer to a line that asks for the position in the listing. -/
def directoryPositionAnswer : Action (Device W R D) Answer := do
  let position ← onRack Rack.directoryPosition
  if position = Listing.noPosition then throw (.io "invalid directory position")
  return .text (toString position.toNat)

/-- The answer to a line that asks for a hostname. -/
def hostnameAnswer (l : Line) : Action (Device W R D) Answer := do
  let slot ← slotParameter l 0
  let name ← (← get).hostname slot
  return .text (if name = "" then "<empty>" else name)

/-- The answer to a line that points a disk slot at a file. -/
def setFilenameAnswer (modePlace namePlace : Nat) (l : Line) : Action (Device W R D) Answer := do
  atLeast 4 l
  let slot ← slotParameter l 0
  let host ← slotParameter l 1
  let mode ← modeParameter l modePlace
  let name ← parameter l namePlace
  replying "ok" (setFilename slot host mode name)

/-- The answer to a line that writes the open key. -/
def writeKeyAnswer (l : Line) : Action (Device W R D) Answer := do
  atLeast 2 l
  let length ← Text.byteArgument "invalid key length" (← parameter l 0)
  let some data := l.bytesFrom 1 | throw .parameterCount
  let _ ← onKeySession (KeySession.write (data.take (min length.toNat AppKey.limit)))
  return .reply "ok"

/-- What a command line answers. -/
def answerLine (command : Command) (l : Line) : Action (Device W R D) Answer :=
  match command with
  | .adapterConfig => return .text configHint
  | .setSsid => do
    let c ← credentialsOf l (← get)
    setCredentials c true
    return { message := "ssid set" }
  | .getSsid => return .text (← get).settings.wifi.ssid
  | .scanResult => do
    let index ← Text.byteArgument "invalid scan index" (← parameter l 0)
    return .text (scanText ((← get).scanResult index))
  | .scan => return .text (toString (← scan).toNat)
  | .wifiEnable => replying "ok" (switchWifi true)
  | .wifiDisable => replying "ok" (switchWifi false)
  | .wifiStatus => return .reply (if (← get).radio.connected then "connected" else "disconnected")
  | .unmountHost => replying "ok" do unmountHost (← slotParameter l 0)
  | .mountHost => mountHostAnswer l
  | .unmountDrive => replying "ok" do unmountImage (← slotParameter l 0)
  | .mountDrive => do
    atLeast 2 l
    let slot ← slotParameter l 0
    let mode ← modeParameter l 1
    let _ ← mountImage slot mode
    return .reply "mounted"
  | .mountAll => replying "ok" mountAll
  | .openDir => openDirectoryAnswer l
  | .readDir => readEntryAnswer l
  | .closeDir => replying "ok" (onRack (modify Rack.closeDirectory))
  | .getDirPos => directoryPositionAnswer
  | .setDirPos => replying "ok" do
    let position ← Text.wordArgument "invalid directory position" (← parameter l 0)
    onRack (Rack.seekDirectory position)
  | .getHost => hostnameAnswer l
  | .putHost => replying "ok" do
    let slot ← slotParameter l 0
    nameHost slot ((l.param 1).getD "")
  | .setDriveFilename => setFilenameAnswer 2 3 l
  | .getDriveFilename => do
    let slot ← slotParameter l 0
    return .text (← (← get).filename slot)
  | .getDrive => do
    let slot ← slotParameter l 0
    return .text (Text.lastComponent (← (← get).filename slot))
  | .putDrive => setFilenameAnswer 3 2 l
  | .writeAppKey => writeKeyAnswer l
  | .readAppKey => return { data := ← KeySession.read (← get).keySession }
  | .openAppKey => replying "ok" do
    let key ← keyOf l
    modify fun d => { d with appKey := key }
  | .closeAppKey => replying "ok" (modify fun d => { d with appKey := d.appKey.closed })
  | .bootConfig => replying "ok" do
    let value ← Text.byteArgument "invalid boot config" (← parameter l 0)
    setConfigBoot (value != 0)
  | .bootMode => replying "ok" do
    setBootDevice (← Text.byteArgument "invalid boot mode" (← parameter l 0))
  | .status => return .reply (← get).status.toLine
  | .localIp => return { message := (← get).radio.info.ip.toText }
  | .reset => do
    reboot
    return {}
  | .enableDevice => replying "ok" do switchDevices (← devicesOf l) true
  | .disableDevice => replying "ok" do switchDevices (← devicesOf l) false

end Device

/-- Options that are related are there together. -/
theorem rel_cases {α β : Type} {rel : α → β → Prop} {x : Option α} {y : Option β}
    (h : Option.Rel rel x y) :
    (x = none ∧ y = none) ∨ ∃ a b, x = some a ∧ y = some b ∧ rel a b := by
  cases h with
  | none => exact .inl ⟨rfl, rfl⟩
  | some h => exact .inr ⟨_, _, rfl, rfl, h⟩

/-! ### What opcodes leave -/

section Leaves

open Device

variable {W R D : Type} {α : Type}

/-- The action does what the other one does, and then leaves its value, if there can be one, in the
buffer for callers of opcodes. -/
inductive LeavesBinary : Action (Device W R D) Unit → Action (Device W R D) Bytes → Prop
  | nothing (act : Action (Device W R D) Unit) : LeavesBinary act (silently act)
  | data (act : Action (Device W R D) Bytes) : LeavesBinary (do setBinary (← act)) act

theorem LeavesBinary.argument {x : Except Error α} {f : α → Action (Device W R D) Unit}
    {g : α → Action (Device W R D) Bytes} (h : ∀ a, LeavesBinary (f a) (g a)) :
    LeavesBinary (liftM x >>= f) (liftM x >>= g) := by
  rcases x with e | a
  · exact .data (throw e)
  · exact h a

theorem LeavesBinary.answering (answer : Device W R D → Bytes) :
    LeavesBinary (do setBinary (answer (← get))) (answering answer) :=
  .data (Device.answering answer)

theorem LeavesBinary.value (act : Action (Device W R D) α) (f : α → Bytes) :
    LeavesBinary (do setBinary (f (← act))) (do return f (← act)) := by
  have h := LeavesBinary.data (do return f (← act))
  simp only [bind_assoc, pure_bind] at h
  exact h

theorem LeavesBinary.told (x : Device W R D → Except Error α) (f : α → Bytes) :
    LeavesBinary (do setBinary (f (← x (← get)))) (do return f (← x (← get))) := by
  have h := LeavesBinary.value (do liftM (x (← get))) f
  simp only [bind_assoc] at h
  exact h

/-! ### What lines leave -/

/-- The action does what the other one does, and then leaves of its value what differs from the
empty answer in the buffer for callers of lines and as the message. -/
inductive LeavesText : Action (Device W R D) Unit → Action (Device W R D) Answer → Prop
  | nothing (act : Action (Device W R D) Unit) :
    LeavesText act (do
      act
      return {})
  | data (act : Action (Device W R D) Bytes) :
    LeavesText (do setTextBytes (← act)) (do return { data := ← act })
  | message (act : Action (Device W R D) String) :
    LeavesText (do succeed (← act)) (do return { message := ← act })
  | both (act : Action (Device W R D) Answer) :
    LeavesText (do
      let answer ← act
      setTextBytes answer.data
      succeed answer.message) act

namespace LeavesText

theorem argument {x : Except Error α} {f : α → Action (Device W R D) Unit}
    {g : α → Action (Device W R D) Answer} (h : ∀ a, LeavesText (f a) (g a)) :
    LeavesText (liftM x >>= f) (liftM x >>= g) := by
  rcases x with e | a
  · exact .both (throw e)
  · exact h a

theorem text (act : Action (Device W R D) α) (f : α → String) :
    LeavesText (do setText (f (← act))) (do return .text (f (← act))) := by
  have h := LeavesText.data (do return Text.encode (f (← act)))
  simp only [bind_assoc, pure_bind] at h
  exact h

theorem told (x : Device W R D → Except Error α) (f : α → String) :
    LeavesText (do setText (f (← x (← get)))) (do return .text (f (← x (← get)))) := by
  have h := text (do liftM (x (← get))) f
  simp only [bind_assoc] at h
  exact h

theorem noted (act : Action (Device W R D) α) (f : α → String) :
    LeavesText (do succeed (f (← act))) (do return { message := f (← act) }) := by
  have h := LeavesText.message (do return f (← act))
  simp only [bind_assoc, pure_bind] at h
  exact h

theorem reply (act : Action (Device W R D) α) (f : α → String) :
    LeavesText (do Device.reply (f (← act))) (do return .reply (f (← act))) := by
  have h := LeavesText.both (do return .reply (f (← act)))
  simp only [bind_assoc, pure_bind] at h
  exact h

theorem replying (act : Action (Device W R D) Unit) (s : String) :
    LeavesText (do
      act
      Device.reply s) (Device.replying s act) := reply act fun _ => s

theorem replying_argument {x : Except Error α} {f g : α → Action (Device W R D) Unit} {s : String}
    (h : ∀ a, LeavesText (f a) (Device.replying s (g a))) :
    LeavesText (liftM x >>= f) (Device.replying s (liftM x >>= g)) := by
  rcases x with e | a
  · exact .both (throw e)
  · exact h a

end LeavesText

/-! ### Commands -/

variable [HostStorage W R] [SettingsStore W] [KeyStorage W] [DriveBay D]

/-- **An opcode without data leaves its answer**, and nothing else. -/
theorem leavesBinary_runOpcode (op : Opcode) (frame : Bytes) :
    Option.Rel LeavesBinary (runOpcode op frame : Option (Action (Device W R D) Unit))
      (answerOpcode op frame) := by
  cases op
  case reset | closeDirectory | writeHostSlots | closeAppKey | mountAll | hashClear =>
    exact .some (.nothing _)
  case scan => exact .some (.value scan fun count => [count])
  case getDirectoryPosition => exact .some (.value (onRack Rack.directoryPosition) Bytes.ofWord)
  case readAppKey => exact .some (.data (do liftM (← get).keySession.read))
  case getSsid | getWifiStatus | getWifiEnabled | readHostSlots | readDeviceSlots
    | getAdapterConfig | getAdapterConfigExtended | status => exact .some (.answering _)
  -- the others wait for data
  all_goals exact .none

/-- **An opcode with data leaves its answer**, and nothing else. -/
theorem leavesBinary_runOpcodeWithData (op : Opcode) (data : Bytes) :
    Option.Rel LeavesBinary (runOpcodeWithData op data : Option (Action (Device W R D) Unit))
      (answerOpcodeWithData op data) := by
  cases op
  case setSsid | mountHost | unmountHost | mountImage | unmountImage | openDirectory
    | writeDeviceSlots | setDirectoryPosition | setDeviceFullpath | writeAppKey | openAppKey
    | configBoot | setBootDevice | enableDevice | disableDevice | hashInput | hashCompute
    | hashComputeNoClear => exact .some (.nothing _)
  case getScanResult =>
    exact .some (.argument fun index => .answering fun d => (d.scanResult index).toBlock)
  case readDirEntry => exact .some (.argument fun _ => .argument fun _ => .data _)
  case getDeviceFullpath =>
    exact .some (.argument fun slot => .told (fun d => d.filename slot) filenameBytes)
  case hashLength =>
    exact .some (.argument fun asHex => .answering fun d => [d.digest.length asHex])
  case hashOutput =>
    exact .some (.argument fun asHex => .answering fun d => d.digest.result asHex)
  -- the others need no data
  all_goals exact .none

omit [SettingsStore W] [KeyStorage W] in
theorem leavesText_mountHostLine (l : Line) :
    LeavesText (mountHostLine l : Action (Device W R D) Unit) (mountHostAnswer l) := by
  refine .argument fun slot => ?_
  have h := LeavesText.reply (do
    Device.mountHost slot
    liftM ((← get : Device W R D).hostname slot)) fun name => name ++ " MOUNTED."
  simp only [bind_assoc] at h
  exact h

omit [HostStorage W R] [SettingsStore W] [KeyStorage W] [DriveBay D] in
theorem leavesText_readEntryLine (l : Line) :
    LeavesText (readEntryLine l : Action (Device W R D) Unit) (readEntryAnswer l) := by
  have hread (limit options : UInt8) : LeavesText
      (do
        let entry ← onRack (Rack.readDirectory limit options)
        setTextBytes entry
        succeed "" : Action (Device W R D) Unit)
      (do return { data := ← onRack (Rack.readDirectory limit options), message := "" }) := by
    have h := LeavesText.both
      (do return { data := ← onRack (Rack.readDirectory limit options), message := "" } :
        Action (Device W R D) Answer)
    simp only [bind_assoc, pure_bind] at h
    exact h
  refine .argument fun _ => .argument fun limit => ?_
  rcases l.param 1 with _ | options
  · exact hread limit 0
  · exact .argument fun options => hread limit options

omit [SettingsStore W] [KeyStorage W] [DriveBay D] in
/-- The check of the position comes before anything is left. -/
theorem leavesText_directoryPositionLine :
    LeavesText (directoryPositionLine : Action (Device W R D) Unit) directoryPositionAnswer := by
  have h := LeavesText.data (do
    let position ← onRack Rack.directoryPosition
    if position = Listing.noPosition then throw (.io "invalid directory position")
    return Text.encode (toString position.toNat) : Action (Device W R D) Bytes)
  simp only [bind_assoc, ite_bind, pure_bind] at h
  exact h

omit [HostStorage W R] [KeyStorage W] in
theorem leavesText_setFilenameLine (modePlace namePlace : Nat) (l : Line) :
    LeavesText (setFilenameLine modePlace namePlace l : Action (Device W R D) Unit)
      (setFilenameAnswer modePlace namePlace l) :=
  .argument fun _ => .argument fun _ => .argument fun _ => .argument fun _ => .argument fun _ =>
    .replying _ "ok"

omit [HostStorage W R] [SettingsStore W] [DriveBay D] in
theorem leavesText_writeKeyLine (l : Line) :
    LeavesText (writeKeyLine l : Action (Device W R D) Unit) (writeKeyAnswer l) := by
  refine .argument fun _ => .argument fun _ => .argument fun length => ?_
  rcases l.bytesFrom 1 with _ | data
  · exact .both (throw .parameterCount)
  · exact .reply _ fun _ => "ok"

/-- **A command line leaves its answer**, and nothing else. -/
theorem leavesText_runLine (command : Command) (l : Line) :
    LeavesText (runLine command l : Action (Device W R D) Unit) (answerLine command l) := by
  cases command
  case adapterConfig => exact .text (pure ()) fun _ => configHint
  case setSsid =>
    have h := LeavesText.message (do
      let c ← credentialsOf l (← get)
      setCredentials c true
      return "ssid set" : Action (Device W R D) String)
    simp only [bind_assoc, pure_bind] at h
    exact h
  case getSsid => exact .text get fun d => d.settings.wifi.ssid
  case scanResult =>
    exact .argument fun _ => .argument fun index => .text get fun d => scanText (d.scanResult index)
  case scan => exact .text Device.scan fun count => toString count.toNat
  case wifiEnable | wifiDisable | mountAll | closeDir | closeAppKey => exact .replying _ "ok"
  case wifiStatus =>
    exact .reply get fun d => if d.radio.connected then "connected" else "disconnected"
  case mountHost => exact leavesText_mountHostLine l
  case mountDrive =>
    exact .argument fun _ => .argument fun slot => .argument fun mode =>
      .reply (mountImage slot mode) fun _ => "mounted"
  case openDir =>
    exact .argument fun _ => .argument fun slot => .argument fun _ => .nothing _
  case readDir => exact leavesText_readEntryLine l
  case getDirPos => exact leavesText_directoryPositionLine
  case getHost =>
    exact .argument fun slot => .told (fun d => d.hostname slot) fun name =>
      if name = "" then "<empty>" else name
  case getDriveFilename => exact .argument fun slot => .told (fun d => d.filename slot) id
  case getDrive => exact .argument fun slot => .told (fun d => d.filename slot) Text.lastComponent
  case setDriveFilename => exact leavesText_setFilenameLine 2 3 l
  case putDrive => exact leavesText_setFilenameLine 3 2 l
  case writeAppKey => exact leavesText_writeKeyLine l
  case readAppKey => exact .data (do liftM (← get).keySession.read)
  case localIp => exact .noted get fun d => d.radio.info.ip.toText
  case status => exact .reply get fun d => d.status.toLine
  case reset => exact .nothing _
  case unmountHost | unmountDrive | putHost | openAppKey | enableDevice | disableDevice =>
    exact .replying_argument fun _ => .replying _ "ok"
  case setDirPos | bootConfig | bootMode =>
    exact .replying_argument fun _ => .replying_argument fun _ => .replying _ "ok"

end Leaves

end StorageAdapter
