import StorageAdapter.Proofs.FrontEnds
import StorageAdapter.Proofs.KeyFiles

/-! # App keys as a map

On a card in memory that does not cut writes short, what is read of a key is what was written last
under its name, cut to the longest key (`keys_read_as_last_written`). What a run has written is told
by the requests that it served and by how they ended (`Device.keysWritten`), and the files on the
card agree with that after each move (`keepsKeys_move`). -/

namespace StorageAdapter

open StorageAdapter.Action StorageAdapter.Device

section Written

variable {W R D : Type} [HostStorage W R] [SettingsStore W] [KeyStorage W] [DriveBay D]

/-! ### What is written -/

/-- The frame is answered without an error, or the operation ends without one. -/
def Move.succeeds (m : Move W D) (d : Device W R D) : Bool :=
  match m with
  | .frame payload => (receive payload d).1.status.code == Error.successCode
  | .call o =>
    match o.perform d with
    | .ok _ _ => true
    | .error _ _ => false
  | .resetBus | .outside _ _ _ => true

/-- The name and the data of a key that the move writes, if it writes one and succeeds. -/
def Move.keyWritten (m : Move W D) (d : Device W R D) : Option (AppKey.Name × Bytes) :=
  match m.request d with
  | .ok (some (.writeKey data)) => if m.succeeds d then some (d.appKey.name, data) else none
  | _ => none

/-- The names and the data of the keys that a run writes, the last one first. -/
def Device.keysWritten (d : Device W R D) : List (Move W D) → List (AppKey.Name × Bytes)
  | [] => []
  | m :: moves => (d.move m).keysWritten moves ++ (m.keyWritten d).toList

theorem keysWritten_concat (d : Device W R D) (moves : List (Move W D)) (m : Move W D) :
    d.keysWritten (moves ++ [m]) = (m.keyWritten (d.run moves)).toList ++ d.keysWritten moves := by
  induction moves generalizing d with
  | nil => simp [Device.keysWritten, Device.run]
  | cons m' moves ih =>
    show (d.move m').keysWritten (moves ++ [m]) ++ (m'.keyWritten d).toList = _
    rw [ih, List.append_assoc]
    rfl

/-- **A move succeeds if and only if the operation does that it asks for.** -/
theorem succeeds_iff {m : Move W D} {d : Device W R D} {o : Operation}
    (hm : m.request d = .ok (some o)) (ho : Request.tells (.ok (some o)) = false) :
    m.succeeds d = true ↔ ∃ e, o.perform d = .ok () e := by
  cases m with
  | frame payload =>
    have hasked : asked payload d = .ok (some o) := hm
    exact beq_iff_eq.trans ((concluded_of_asked hasked nofun).code_iff ho)
  | call o' =>
    obtain rfl : o' = o := Option.some.inj (Except.ok.inj hm)
    show (match o'.perform d with
      | .ok _ _ => true
      | .error _ _ => false) = true ↔ _
    rcases o'.perform d with ⟨u, e⟩ | ⟨err, e⟩
    · exact ⟨fun _ => ⟨e, rfl⟩, fun _ => rfl⟩
    · refine ⟨fun h => absurd h Bool.false_ne_true, ?_⟩
      rintro ⟨e', he⟩
      cases he
  | resetBus => cases hm
  | outside storage drives radio => cases hm

/-! ### What is read -/

/-- With nothing pending, the frame reads the key that is open. -/
def ReadsKey (payload : Bytes) : Prop :=
  payload = ClientCommand.openFrame .readAppKey ∨
    (ClientCommand.line payload).WellFormed ∧ (Line.parse payload).command = some .readAppKey

/-- The reply tells the data or the error. -/
def Reply.Tells (r : Reply) : Except Error Bytes → Prop
  | .ok data => r.status.code = Error.successCode ∧ r.data = data
  | .error e => r.status.code = e.code ∧ r.status.message = e.message

theorem Reply.Tells.exists_ok {r : Reply} {x : Except Error Bytes} (h : r.Tells x)
    (hcode : r.status.code = Error.successCode) : ∃ data, x = .ok data ∧ r.data = data := by
  rcases x with e | data
  · exact absurd (h.1.symm.trans hcode) e.code_ne_successCode
  · exact ⟨data, rfl, h.2⟩

omit [HostStorage W R] [SettingsStore W] [DriveBay D] in
theorem readKey_apply (d : Device W R D) : Device.readKey d =
    match d.keySession.read with
    | .ok data => .ok data d
    | .error e => .error e d := by
  have h : Device.readKey d = (liftM d.keySession.read : Action (Device W R D) Bytes) d := rfl
  rw [h]
  rcases d.keySession.read with e | data <;> rfl

/-- **A key that is read** is told to both front ends. -/
theorem tells_readKey {payload : Bytes} (h : ReadsKey payload) {d : Device W R D}
    (hd : d.pending = .idle) : (receive payload d).1.Tells d.keySession.read := by
  have hread := readKey_apply d
  rcases h with rfl | ⟨hp, hc⟩
  · rw [receive_readKey_opcode hd]
    unfold opcodeOutcome
    rw [hread]
    rcases d.keySession.read with e | data
    · exact ⟨rfl, rfl⟩
    · exact ⟨rfl, rfl⟩
  · rw [receive_readKey_line hp hc hd]
    unfold lineOutcome
    rw [bind_apply, hread]
    rcases d.keySession.read with e | data
    · exact ⟨rfl, rfl⟩
    · exact ⟨rfl, rfl⟩

end Written

/-! ### Files and what was written -/

variable {D : Type} [DriveBay D]

/-- What happens outside takes the card out or puts it back at most. -/
def Move.LeavesCard : Move Memory.Storage D → Prop
  | .outside storage _ _ =>
    ∀ w : Memory.Storage, ∃ inserted, (storage w).card = { w.card with inserted }
  | _ => True

/-- The card cuts no write short, and its key files hold what was written last. -/
structure Memory.Card.KeepsKeys (log : List (AppKey.Name × Bytes)) (c : Card) : Prop where
  unlimited : c.writeLimit = none
  file : ∀ k : AppKey, c.files.get? k.filename = (log.lookup k.name).map (·.take AppKey.limit)

namespace Memory.Card.KeepsKeys

variable {log : List (AppKey.Name × Bytes)} {c : Memory.Card} (h : c.KeepsKeys log)
include h

theorem setInserted (inserted : Bool) : Card.KeepsKeys log { c with inserted } :=
  ⟨h.unlimited, h.file⟩

theorem withKey (k : AppKey) (data : Bytes) :
    (c.withKey k data).KeepsKeys ((k.name, data) :: log) := by
  have hstored : c.stored (data.take AppKey.limit) = data.take AppKey.limit := by
    unfold Card.stored
    rw [h.unlimited]
  refine ⟨h.unlimited, fun k' => ?_⟩
  unfold Card.withKey
  rw [hstored]
  by_cases hname : k'.name = k.name
  · rw [AppKey.filename_inj.2 hname, Catalog.get?_put_self, hname, List.lookup_cons_self]
    rfl
  · have hfile : k'.filename ≠ k.filename := fun hf => hname (AppKey.filename_inj.1 hf)
    rw [Catalog.get?_put_of_ne _ hfile, h.file, List.lookup_cons, beq_false_of_ne hname]

end Memory.Card.KeepsKeys

section Move

variable {d : Device Memory.Storage String D} {m : Move Memory.Storage D}
  {log : List (AppKey.Name × Bytes)}

/-- **A write succeeds** if the key may be written and the card is in place and does not cut it
short. -/
theorem perform_writeKey_iff (hlimit : d.card.writeLimit = none) (data : Bytes) :
    (∃ e, (Operation.writeKey data).perform d = .ok () e) ↔
      d.appKey.Writable ∧ d.card.inserted := by
  have hperform : (Operation.writeKey data).perform d = _ := writeKey_apply data d
  rw [hperform]
  constructor
  · rintro ⟨e, he⟩
    by_contra h
    obtain ⟨err, herr⟩ := Memory.Storage.writeFile_refused h data
    rw [herr] at he
    cases he
  · intro h
    have hstored := Memory.Storage.writeFile_stored h data
    have hwhole : d.card.stored (data.take AppKey.limit) = data.take AppKey.limit := by
      unfold Memory.Card.stored
      rw [hlimit]
    simp only [hwhole, ne_eq, not_true_eq_false, if_false] at hstored
    rw [hstored]
    exact ⟨_, rfl⟩

theorem keyWritten_writeKey (hlimit : d.card.writeLimit = none) {data : Bytes}
    (hm : m.request d = .ok (some (.writeKey data))) : m.keyWritten d =
      if d.appKey.Writable ∧ d.card.inserted then some (d.appKey.name, data) else none := by
  have hiff := (succeeds_iff hm rfl).trans (perform_writeKey_iff hlimit data)
  unfold Move.keyWritten
  rw [hm]
  exact if_congr hiff rfl rfl

/-- **One move** leaves the files as the writes say that succeeded. -/
theorem keepsKeys_move (h : d.card.KeepsKeys log) (hm : m.LeavesCard) :
    (d.move m).card.KeepsKeys ((m.keyWritten d).toList ++ log) := by
  by_cases hwrite : ∃ data, m.request d = .ok (some (.writeKey data))
  · obtain ⟨data, hwrite⟩ := hwrite
    rw [card_writeKey hwrite, keyWritten_writeKey h.unlimited hwrite]
    split
    · exact h.withKey d.appKey data
    · exact h
  · have hwrite : ∀ data, m.request d ≠ .ok (some (.writeKey data)) :=
      fun data hd => hwrite ⟨data, hd⟩
    have hnone : m.keyWritten d = none := by
      unfold Move.keyWritten
      split
      · next data hd => exact absurd hd (hwrite data)
      · rfl
    rw [hnone]
    refine card_move (S := Memory.Card.KeepsKeys log) hwrite ?_ h
    rintro storage drives radio rfl h
    have hleaves : ∀ w : Memory.Storage,
      ∃ inserted, (storage w).card = { w.card with inserted } := hm
    obtain ⟨inserted, hcard⟩ := hleaves d.rack.storage
    rw [hcard]
    exact h.setInserted inserted

/-- **A run** leaves the files as the writes say that succeeded. -/
theorem keepsKeys_run {moves : List (Move Memory.Storage D)} (h : d.card.KeepsKeys [])
    (hout : ∀ m ∈ moves, m.LeavesCard) : (d.run moves).card.KeepsKeys (d.keysWritten moves) := by
  induction moves using List.reverseRecOn with
  | nil => exact h
  | append_singleton moves m ih =>
    have hrun := ih fun m' hm' => hout m' (List.mem_append_left _ hm')
    rw [run_concat, keysWritten_concat]
    exact keepsKeys_move hrun (hout m (by simp))

omit [DriveBay D] in
theorem readable_of_read_ok {data : Bytes} (h : d.keySession.read = .ok data) :
    d.card.inserted ∧ d.appKey.Readable := by
  unfold KeySession.read at h
  split at h
  · cases h
  · next hcard =>
    split at h
    · cases h
    · next hkey =>
      have hcard : KeyStorage.available d.keySession.card = true := by simpa using hcard
      rw [not_or, not_not] at hkey
      exact ⟨hcard, hkey⟩

omit [DriveBay D] in
/-- **A key is read as it was written last**, if it may be read and the card is in place. -/
theorem read_keepsKeys (h : d.card.KeepsKeys log) (hcard : d.card.inserted)
    (hkey : d.appKey.Readable) : d.keySession.read =
      match log.lookup d.appKey.name with
      | some data => .ok (data.take AppKey.limit)
      | none => .error .keyNotRead := by
  have havailable : KeyStorage.available d.rack.storage = true := hcard
  have hkey : ¬(d.appKey.creator = 0 ∨ d.appKey.access ≠ .read) := by
    rw [not_or, not_not]
    exact hkey
  unfold KeySession.read Device.keySession
  simp only [havailable, Bool.not_true, Bool.false_eq_true, if_false, if_neg hkey]
  show Memory.Card.read d.appKey.filename AppKey.limit d.card = _
  unfold Memory.Card.read
  rw [h.file]
  rcases log.lookup d.appKey.name with _ | data
  · rfl
  · show Except.ok ((data.take AppKey.limit).take AppKey.limit) = _
    rw [List.take_take, Nat.min_self]

theorem read_move_of_ne {k : AppKey} {data : Bytes} (hm : m.request d = .ok (some (.writeKey data)))
    (hk : d.appKey.name ≠ k.name) : KeySession.read ⟨k, (d.move m).rack.storage⟩ =
      KeySession.read ⟨k, d.rack.storage⟩ := by
  have hfile : k.filename ≠ d.appKey.filename := fun hf => hk (AppKey.filename_inj.1 hf.symm)
  have hcard := card_writeKey hm
  have hinserted : (d.move m).card.inserted = d.card.inserted := by
    rw [hcard]
    split <;> rfl
  have hget : (d.move m).card.files.get? k.filename = d.card.files.get? k.filename := by
    rw [hcard]
    split
    · exact Catalog.get?_put_of_ne _ hfile _
    · rfl
  have hread : KeyStorage.read k.filename AppKey.limit (d.move m).rack.storage =
      KeyStorage.read k.filename AppKey.limit d.rack.storage := by
    show Memory.Card.read k.filename AppKey.limit (d.move m).card =
      Memory.Card.read k.filename AppKey.limit d.card
    unfold Memory.Card.read
    rw [hget]
  have havailable : KeyStorage.available (d.move m).rack.storage =
      KeyStorage.available d.rack.storage := hinserted
  unfold KeySession.read
  simp only [hread, havailable]

end Move

/-! ### All runs -/

/-- **App keys behave as a map.** On a card without files that cuts no write short, and that may be
taken out and put back, along every run: the key that is open was opened last. A read that succeeds
tells the data that was written last under the name of that key, cut to the longest key; with the
card in place and a key open for reading, it succeeds if something was written under the name, and
fails for want of a file otherwise. A write leaves what is read of other keys. -/
theorem keys_read_as_last_written {storage : Memory.Storage} {drives : D} {radio : Radio}
    {board : Board} {digester : Digester} {d : Device Memory.Storage String D}
    (hd : d = Device.start storage drives radio board digester)
    (hempty : storage.card.files = {}) (hlimit : storage.card.writeLimit = none)
    {moves : List (Move Memory.Storage D)} (hout : ∀ m ∈ moves, m.LeavesCard) :
    let e := d.run moves
    let last := (d.keysWritten moves).lookup e.appKey.name
    (e.appKey.creator ≠ 0 → d.Opened moves e.appKey) ∧
      (∀ payload, ReadsKey payload → e.pending = .idle →
        let reply := (receive payload e).1
        (reply.status.code = Error.successCode →
          ∃ data, last = some data ∧ reply.data = data.take AppKey.limit) ∧
        (e.card.inserted → e.appKey.Readable →
          (∀ data, last = some data → reply.Tells (.ok (data.take AppKey.limit))) ∧
            (last = none → ∃ what, reply.Tells (.error (.io what))))) ∧
      ∀ m data k, m.request e = .ok (some (.writeKey data)) → e.appKey.name ≠ k.name →
        KeySession.read ⟨k, (e.move m).rack.storage⟩ = KeySession.read ⟨k, e.rack.storage⟩ := by
  intro e last
  have hclosed : d.appKey.creator = 0 := congrArg (fun d => d.appKey.creator) hd
  have hstart : d.card = storage.card := hd ▸ card_start storage drives radio board digester
  have hkeeps : d.card.KeepsKeys [] := by
    rw [hstart]
    refine ⟨hlimit, fun k => ?_⟩
    rw [hempty]
    rfl
  have hread := read_keepsKeys (keepsKeys_run hkeeps hout)
  refine ⟨fun h => opened_run hclosed moves h, fun payload hpayload hidle => ?_,
    fun m data k hm hk => read_move_of_ne hm hk⟩
  intro reply
  have htells : reply.Tells e.keySession.read := tells_readKey hpayload hidle
  constructor
  · intro hcode
    -- what could be read lay on the card under a key that was open for reading
    obtain ⟨bytes, hok, hbytes⟩ := htells.exists_ok hcode
    obtain ⟨hcard, hkey⟩ := readable_of_read_ok hok
    rw [hread hcard hkey] at hok
    split at hok
    · next data hdata => exact ⟨data, hdata, hbytes.trans (Except.ok.inj hok).symm⟩
    · cases hok
  · intro hcard hkey
    rw [hread hcard hkey] at htells
    constructor
    · intro data hdata
      have hdata : (d.keysWritten moves).lookup (d.run moves).appKey.name = some data := hdata
      rwa [hdata] at htells
    · intro hnone
      have hnone : (d.keysWritten moves).lookup (d.run moves).appKey.name = none := hnone
      rw [hnone] at htells
      exact ⟨_, htells⟩

/-- A key is written by a line that tells its length, another one by an opcode, the card is taken
out and put back, and the first key is read. -/
theorem keys_read_as_last_written_abc :
    let d : Memory.Adapter := Memory.Surroundings.start {}
    let request (key mode : UInt8) : Bytes := [0x34, 0x12, 1, key, mode, 0]
    let moves : List (Move Memory.Storage Memory.Drives) :=
      [.frame (ClientCommand.openFrame .openAppKey), .frame (request 2 1),
        .frame (Text.encode "WRITEAPPKEY:3,abcdef"),
        .frame (ClientCommand.openFrame .openAppKey), .frame (request 3 1),
        .frame (ClientCommand.openFrame .writeAppKey), .frame (Text.encode "xyz"),
        .outside (Memory.Storage.changeCard fun c => { c with inserted := false }) id id,
        .frame (Text.encode "READAPPKEY"),
        .outside (Memory.Storage.changeCard fun c => { c with inserted := true }) id id,
        .frame (ClientCommand.openFrame .openAppKey), .frame (request 2 0)]
    ({} : Memory.Card).files = {} ∧ ({} : Memory.Card).writeLimit = none ∧
      (∀ m ∈ moves, m.LeavesCard) ∧
      (receive (ClientCommand.openFrame .readAppKey) (d.run moves)).1.Tells
        (.ok (Text.encode "abc")) := by
  intro d request moves
  have hout : ∀ m ∈ moves, m.LeavesCard := by
    simp only [moves, List.forall_mem_cons]
    exact ⟨trivial, trivial, trivial, trivial, trivial, trivial, trivial, fun w => ⟨false, rfl⟩,
      trivial, fun w => ⟨true, rfl⟩, trivial, trivial, nofun⟩
  have hidle : (d.run moves).pending = .idle := by decide +kernel
  have hcard : (d.run moves).card.inserted := by decide +kernel
  have hreadable : (d.run moves).appKey.Readable := by decide +kernel
  have hlast : (d.keysWritten moves).lookup (d.run moves).appKey.name =
      some (Text.encode "abc") := by decide +kernel
  have hd : d = Device.start {} {} {} { version := "dummy-0.1.0" } DigestAlgorithm.digest := rfl
  -- from here on, only what was computed is known of the device
  clear_value d
  have hreads : ReadsKey (ClientCommand.openFrame .readAppKey) := .inl rfl
  have hmap := keys_read_as_last_written hd rfl rfl hout
  exact ⟨rfl, rfl, hout, ((hmap.2.1 _ hreads hidle).2 hcard hreadable).1 _ hlast⟩

end StorageAdapter
