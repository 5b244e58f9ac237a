import Mathlib.Data.List.DropRight
import StorageAdapter.Proofs.KeyMap
import StorageAdapter.Proofs.LastStatus

/-! # Digests and their history

What the adapter tells of digests depends on the digest commands that it has run, and on nothing
else: the frames that bring digest commands are told by what is pending (`digestCommand_request`),
and other commands leave the hash session alone (`digesting_move`). What a history of such commands
leaves is read off it from behind: the input since it was cleared last (`DigestCommand.collected`),
and the digest of what was collected before the last computation (`DigestCommand.digested`). The
session agrees with that along every run (`reflects_run`), and so do the replies
(`digests_depend_on_digest_commands`). -/

namespace StorageAdapter

open StorageAdapter.Action StorageAdapter.Device

/-! ### Lengths -/

namespace Digest

theorem length_littleEndian (n x : Nat) : (littleEndian n x).length = n := by
  induction n generalizing x with
  | zero => rfl
  | succ n ih => exact congrArg Nat.succ (ih _)

theorem length_bigEndian (n x : Nat) : (bigEndian n x).length = n :=
  List.length_reverse.trans (length_littleEndian n x)

end Digest

/-- Every digest of the adapter's own has the length of its algorithm. -/
theorem DigestAlgorithm.length_digest (a : DigestAlgorithm) (message : Bytes) :
    (a.digest message).length = a.length := by
  cases a with
  | md5 => simp [digest, Digest.Md5.digest, Digest.length_littleEndian, length]
  | sha1 => simp [digest, Digest.Sha1.digest, Digest.length_bigEndian, length]
  | sha256 => simp [digest, Digest.Sha256.digest, Digest.length_bigEndian, length]
  | sha512 => simp [digest, Digest.Sha512.digest, Digest.length_bigEndian, length]

theorem DigestAlgorithm.length_le (a : DigestAlgorithm) : a.length ≤ 64 := by
  cases a <;> decide

namespace Bytes

theorem toNat_hexDigit_lt {n : Nat} (hn : n < 16) : (hexDigit n).toNat < 0x80 := by
  have h : ∀ n < 16, (hexDigit n).toNat < 0x80 := by decide
  exact h n hn

theorem toNat_lt_of_mem_hexPair {b : UInt8} {c : Char} (hc : c ∈ hexPair b) : c.toNat < 0x80 := by
  have hb := b.toNat_lt
  rcases List.mem_cons.1 hc with rfl | hc
  · exact toNat_hexDigit_lt (by omega)
  · rw [List.mem_singleton.1 hc]
    exact toNat_hexDigit_lt (by omega)

theorem length_flatMap_hexPair (bs : Bytes) : (bs.flatMap hexPair).length = 2 * bs.length := by
  induction bs with
  | nil => rfl
  | cons b bs ih =>
    have hpair : (hexPair b).length = 2 := rfl
    rw [List.flatMap_cons, List.length_append, List.length_cons, hpair, ih]
    omega

end Bytes

theorem Text.length_encode_hex (bs : Bytes) : (encode (Bytes.hex bs)).length = 2 * bs.length := by
  have hascii : ∀ c ∈ bs.flatMap Bytes.hexPair, c.toNat < 0x80 := by
    intro c hc
    obtain ⟨b, -, hc⟩ := List.mem_flatMap.1 hc
    exact Bytes.toNat_lt_of_mem_hexPair hc
  unfold encode Bytes.hex
  rw [String.toList_ofList, flatMap_utf8EncodeChar_of_lt hascii, List.length_map,
    Bytes.length_flatMap_hexPair]

/-! ### Histories -/

/-- What is said to the hash session. -/
inductive DigestCommand where
  | input (data : Bytes)
  | compute (algorithm : DigestAlgorithm) (clears : Bool)
  | clear
deriving DecidableEq, Repr

namespace DigestCommand

/-- The input that a command adds. -/
def added : DigestCommand → Bytes
  | input data => data
  | _ => []

def isInput : DigestCommand → Bool
  | input _ => true
  | _ => false

/-- Whether a command clears the input. -/
def clearsInput : DigestCommand → Bool
  | clear | compute _ true => true
  | _ => false

/-- **The input that a history leaves**: all that came since it was cleared last. -/
def collected (log : List DigestCommand) : Bytes :=
  (log.rtakeWhile (!·.clearsInput)).flatMap added

/-- **The digest that a history leaves**, up to the last command that is not input: if that is a
computation, the digest of what was collected before it. -/
def digested (digester : Digester) (log : List DigestCommand) : Bytes :=
  let settled := log.rdropWhile isInput
  match settled.getLast? with
  | some (compute algorithm _) => digester algorithm (collected settled.dropLast)
  | _ => []

variable (digester : Digester) (log : List DigestCommand)

theorem collected_input (data : Bytes) :
    collected (log ++ [input data]) = collected log ++ data := by
  unfold collected
  rw [List.rtakeWhile_concat_pos _ _ _ rfl, List.flatMap_append]
  exact congrArg _ (List.append_nil data)

theorem collected_compute (algorithm : DigestAlgorithm) (clears : Bool) :
    collected (log ++ [compute algorithm clears]) = if clears then [] else collected log := by
  unfold collected
  cases clears with
  | true => rw [List.rtakeWhile_concat_neg _ _ _ Bool.false_ne_true]; rfl
  | false =>
    rw [List.rtakeWhile_concat_pos _ _ _ rfl, List.flatMap_append]
    exact List.append_nil _

theorem collected_clear : collected (log ++ [clear]) = [] := by
  unfold collected
  rw [List.rtakeWhile_concat_neg _ _ _ Bool.false_ne_true]
  rfl

theorem digested_input (data : Bytes) :
    digested digester (log ++ [input data]) = digested digester log := by
  unfold digested
  rw [List.rdropWhile_concat_pos _ _ _ rfl]

theorem digested_compute (algorithm : DigestAlgorithm) (clears : Bool) :
    digested digester (log ++ [compute algorithm clears]) = digester algorithm (collected log) := by
  unfold digested
  rw [List.rdropWhile_concat_neg _ _ _ Bool.false_ne_true]
  simp

theorem digested_clear : digested digester (log ++ [clear]) = [] := by
  unfold digested
  rw [List.rdropWhile_concat_neg _ _ _ Bool.false_ne_true]
  simp

/-- Input behind a computation does not change its digest. -/
theorem digested_inputs (algorithm : DigestAlgorithm) (clears : Bool) (inputs : List Bytes) :
    digested digester (log ++ compute algorithm clears :: inputs.map input) =
      digester algorithm (collected log) := by
  induction inputs using List.reverseRecOn with
  | nil => exact digested_compute digester log algorithm clears
  | append_singleton inputs data ih =>
    rw [List.map_append, List.map_singleton, ← List.cons_append, ← List.append_assoc,
      digested_input, ih]

/-- Without a computation since all was cleared last, there is no digest. -/
theorem digested_eq_nil (h : ∀ algorithm clears,
    compute algorithm clears ∉ log.rtakeWhile (· ≠ clear)) : digested digester log = [] := by
  induction log using List.reverseRecOn with
  | nil => rfl
  | append_singleton log c ih =>
    cases c with
    | input data =>
      rw [List.rtakeWhile_concat_pos _ _ _ (by simp)] at h
      rw [digested_input]
      exact ih fun algorithm clears hc => h algorithm clears (List.mem_append_left _ hc)
    | compute algorithm clears =>
      rw [List.rtakeWhile_concat_pos _ _ _ (by simp)] at h
      exact absurd (List.mem_append_right _ List.mem_cons_self) (h algorithm clears)
    | clear => exact digested_clear digester log

end DigestCommand

/-! ### The session -/

namespace DigestSession

open DigestCommand (collected digested)

/-- What a command does to the session. -/
def obey (s : DigestSession) (digester : Digester) : DigestCommand → DigestSession
  | .input data => s.feed data
  | .compute algorithm clears => s.compute digester algorithm clears
  | .clear => {}

/-- The session holds what the history leaves, and knows how long its digest is. -/
structure Reflects (digester : Digester) (log : List DigestCommand) (s : DigestSession) :
    Prop where
  input : s.input = collected log
  output : s.output = digested digester log
  length : s.output.length = (s.algorithm.map DigestAlgorithm.length).getD 0

variable {digester : Digester} {log : List DigestCommand} {s : DigestSession}

theorem Reflects.obey (h : s.Reflects digester log)
    (hlength : ∀ algorithm message, (digester algorithm message).length = algorithm.length)
    (c : DigestCommand) : (s.obey digester c).Reflects digester (log ++ [c]) := by
  cases c with
  | input data =>
    refine ⟨?_, ?_, h.length⟩
    · rw [DigestCommand.collected_input, ← h.input]
      rfl
    · rw [DigestCommand.digested_input]
      exact h.output
  | compute algorithm clears =>
    refine ⟨?_, ?_, hlength algorithm s.input⟩
    · rw [DigestCommand.collected_compute, ← h.input]
      rfl
    · rw [DigestCommand.digested_compute, ← h.input]
      rfl
  | clear =>
    refine ⟨?_, ?_, rfl⟩
    · rw [DigestCommand.collected_clear]
      rfl
    · rw [DigestCommand.digested_clear]
      rfl

/-- The digest as it is told to callers. -/
theorem Reflects.result (h : s.Reflects digester log) (asHex : Bool) : s.result asHex =
    if asHex then Text.encode (Bytes.hex (digested digester log)) else digested digester log := by
  unfold DigestSession.result
  rw [h.output]

/-- **The length that is told** is that of the digest that is told. It fits a byte even in
hexadecimal digits. -/
theorem Reflects.toNat_length (h : s.Reflects digester log) (asHex : Bool) :
    (s.length asHex).toNat = (s.result asHex).length := by
  have hle : (s.algorithm.map DigestAlgorithm.length).getD 0 ≤ 64 := by
    rcases s.algorithm with _ | a
    · exact Nat.zero_le _
    · exact a.length_le
  unfold DigestSession.length DigestSession.result
  rw [UInt8.toNat_ofNat']
  cases asHex with
  | true =>
    rw [if_pos rfl, if_pos rfl, Text.length_encode_hex, h.length]
    omega
  | false =>
    rw [if_neg Bool.false_ne_true, if_neg Bool.false_ne_true, h.length]
    omega

end DigestSession

/-! ### What brings digest commands -/

/-- The digest command that a frame brings, if any: its data with an opcode pending, and with none
the opcode that clears. A digest is computed only under an algorithm that there is. -/
def Pending.digestCommand (p : Pending) (payload : Bytes) : Option DigestCommand :=
  match p, payload with
  | .idle, _ => if payload = ClientCommand.openFrame .hashClear then some .clear else none
  | .waiting .hashInput, _ :: _ => some (.input payload)
  | .waiting .hashCompute, b :: _ => (DigestAlgorithm.ofByte b).toOption.map (.compute · true)
  | .waiting .hashComputeNoClear, b :: _ =>
    (DigestAlgorithm.ofByte b).toOption.map (.compute · false)
  | _, _ => none

def Operation.digestCommand : Operation → Option DigestCommand
  | feedDigest data => some (.input data)
  | computeDigest algorithm clears => some (.compute algorithm clears)
  | clearDigest => some .clear
  | _ => none

def Request.digestCommand : Request → Option DigestCommand
  | .ok (some o) => o.digestCommand
  | _ => none

variable {W R D : Type}

/-- The digest command that a move brings. -/
def Move.digestCommand (d : Device W R D) : Move W D → Option DigestCommand
  | .frame payload => d.pending.digestCommand payload
  | .call o => o.digestCommand
  | .resetBus | .outside _ _ _ => none

theorem Operation.digestCommand_eq_none {o : Operation} (ho : ¬o.digests) :
    o.digestCommand = none := by
  cases o with
  | feedDigest _ | computeDigest _ _ | clearDigest => exact absurd rfl ho
  | _ => rfl

theorem Request.digestCommand_bind {α : Type} {x : Except Error α} {k : α → Request}
    (h : ∀ a, (k a).digestCommand = none) : Request.digestCommand (x >>= k) = none := by
  rcases x with e | a
  · rfl
  · exact h a

/-- **No command line is about digests.** -/
theorem Command.digestCommand_request (command : Command) (l : Line) (d : Device W R D) :
    (command.request l d).digestCommand = none := by
  cases command
  case readDir =>
    refine Request.digestCommand_bind fun _ => Request.digestCommand_bind fun _ => ?_
    rcases l.param 1 with _ | options
    · rfl
    · exact Request.digestCommand_bind fun _ => rfl
  case writeAppKey =>
    refine Request.digestCommand_bind fun _ => Request.digestCommand_bind fun _ =>
      Request.digestCommand_bind fun _ => ?_
    rcases l.bytesFrom 1 with _ | data <;> rfl
  all_goals repeat' first | rfl | refine Request.digestCommand_bind fun _ => ?_

/-- An opcode asks for the digest command that its data brings. -/
theorem Opcode.digestCommand_request {op : Opcode} (hop : op.needsNoData = false) {data : Bytes}
    (hdata : data ≠ []) :
    (op.request data).digestCommand = (Pending.waiting op).digestCommand data := by
  obtain ⟨b, bs, rfl⟩ := List.exists_cons_of_ne_nil hdata
  cases op
  case hashCompute | hashComputeNoClear =>
    show Request.digestCommand (DigestAlgorithm.ofByte b >>= _) =
      (DigestAlgorithm.ofByte b).toOption.map _
    rcases DigestAlgorithm.ofByte b with e | algorithm <;> rfl
  case setDirectoryPosition =>
    rcases bs with _ | ⟨high, rest⟩ <;> rfl
  case setDeviceFullpath => rcases bs with _ | ⟨host, _ | ⟨mode, name⟩⟩ <;> rfl
  all_goals cases hop
  all_goals repeat' first | rfl | refine Request.digestCommand_bind fun _ => ?_

/-! ### Moves -/

/-- **What a move asks for is the digest command that it brings**, and nothing about digests if it
brings none. -/
theorem digestCommand_request {d : Device W R D} (hd : d.pending.Resting) (m : Move W D) :
    (m.request d).digestCommand = m.digestCommand d := by
  cases m with
  | call o => rfl
  | resetBus => rfl
  | outside storage drives radio => rfl
  | frame payload =>
    show (asked payload d).digestCommand = d.pending.digestCommand payload
    unfold asked
    by_cases hp : payload = []
    · subst hp
      obtain hidle | ⟨op, -, hwaiting⟩ := hd
      · rw [hidle]
        rfl
      · rw [hwaiting]
        cases op <;> rfl
    obtain hidle | ⟨op, hop, hwaiting⟩ := hd
    · rw [hidle]
      obtain ⟨hl, hdecode⟩ | ⟨code, hc, rfl, hdecode⟩ | ⟨op, rfl, hdecode⟩ :=
        decode_idle_cases hp <;> rw [hdecode]
      · have hclear : payload ≠ ClientCommand.openFrame .hashClear := hl Opcode.hashClear.code
        rw [Pending.digestCommand, if_neg hclear]
        rcases hcommand : (Line.parse payload).command with _ | command
        · simp only [hcommand]
          rfl
        · simp only [hcommand]
          exact command.digestCommand_request _ d
      · have hclear : [Opcode.marker, code] ≠ ClientCommand.openFrame .hashClear := fun h =>
          nomatch hc.symm.trans (marker_eq_openFrame_iff.1 h)
        rw [Pending.digestCommand, if_neg hclear]
        rfl
      · cases op <;> rfl
    · rw [hwaiting, decode_data hp]
      simp only [hop, Bool.false_eq_true, if_false]
      exact Opcode.digestCommand_request hop hp

variable [HostStorage W R] [SettingsStore W] [KeyStorage W] [DriveBay D]

/-- The hash session and the digester are these. -/
def Device.Digesting (s : DigestSession) (digester : Digester) (d : Device W R D) : Prop :=
  d.digest = s ∧ d.digester = digester

theorem sustained_digesting (s : DigestSession) (digester : Digester) :
    Sustained (Device.Digesting s digester : Device W R D → Prop)
      (Device.Digesting s digester) where
  weaken h := h
  before := ⟨fun h _ => h, fun h _ _ _ => h⟩
  during := ⟨fun h _ => h, fun h _ _ _ => h⟩
  aside h _ _ := h
  unmount h _ := h
  close h := h
  follow _ := ⟨fun h _ => h, fun h _ _ _ _ => h, fun h _ => h⟩
  rename h _ _ := h
  load h _ _ _ := h
  wifi h _ := h
  boot h _ _ := h
  switch h _ _ := h
  save h := by
    rw [after_save]
    exact h
  key h _ _ := h

/-- **An operation that is no digest command leaves the hash session alone.** -/
theorem digesting_perform (o : Operation) (d : Device W R D) :
    (o.perform.after d).Digesting
      (o.digestCommand.elim d.digest (d.digest.obey d.digester)) d.digester := by
  by_cases ho : o.digests
  · cases o with
    | feedDigest _ | computeDigest _ _ | clearDigest => exact ⟨rfl, rfl⟩
    | _ => cases ho
  · rw [Operation.digestCommand_eq_none ho]
    refine keeps_iff.1 ((sustained_digesting d.digest d.digester).perform o
      (fun slot path pattern h => ?_) (fun h => absurd h ho) (fun _ _ hd => hd)
      (fun _ _ _ hd => hd) fun _ _ _ hd _ _ _ => hd) d ⟨rfl, rfl⟩
    subst h
    exact ends_onRack fun _ => keeps_iff.2 fun _ hr => hr

theorem digesting_serve (r : Request) (d : Device W R D) :
    (r.serve.after d).Digesting
      (r.digestCommand.elim d.digest (d.digest.obey d.digester)) d.digester := by
  rcases r with e | _ | o
  · exact ⟨rfl, rfl⟩
  · exact ⟨rfl, rfl⟩
  · exact digesting_perform o d

/-- **A move does to the hash session what the digest command does that it brings**, and nothing if
it brings none. -/
theorem digesting_move {d : Device W R D} (hd : d.pending.Resting) (m : Move W D) :
    (d.move m).Digesting
      ((m.digestCommand d).elim d.digest (d.digest.obey d.digester)) d.digester := by
  rw [← digestCommand_request hd m]
  cases m with
  | frame payload =>
    obtain ⟨status, h⟩ := receive_eq payload d
    show (receive payload d).2.Digesting _ _
    rw [h]
    exact digesting_serve (asked payload d) d
  | resetBus => exact ⟨rfl, rfl⟩
  | call o => exact digesting_perform o d
  | outside storage drives radio => exact ⟨rfl, rfl⟩

/-! ### Runs -/

/-- The digest commands of a run, in turn. -/
def Device.digestCommands (d : Device W R D) (moves : List (Move W D)) : List DigestCommand :=
  d.trace Move.digestCommand moves

/-- **After a run, the hash session is what its digest commands leave.** -/
theorem reflects_run {d : Device W R D} {digester : Digester}
    (hlength : ∀ algorithm message, (digester algorithm message).length = algorithm.length)
    (hpending : d.pending.Resting) (hd : d.Digesting {} digester) (moves : List (Move W D)) :
    (d.run moves).digester = digester ∧
      (d.run moves).digest.Reflects digester (d.digestCommands moves) := by
  induction moves using List.reverseRecOn with
  | nil => exact ⟨hd.2, hd.1 ▸ ⟨rfl, rfl, rfl⟩⟩
  | append_singleton moves m ih =>
    obtain ⟨hdigester, hreflects⟩ := ih
    obtain ⟨hsession, hkept⟩ := digesting_move (resting_run_moves hpending moves) m
    unfold Device.digestCommands at *
    rw [run_concat, trace_concat]
    refine ⟨hkept.trans hdigester, ?_⟩
    rw [hsession, hdigester]
    rcases m.digestCommand (d.run moves) with _ | c
    · rw [Option.toList_none, List.append_nil]
      exact hreflects
    · exact hreflects.obey hlength c

/-! ### Replies -/

/-- The reply to an opcode and its data: to the data with the opcode pending, and with none pending
to the data behind the opcode's own frame. -/
inductive Device.Answers (d : Device W R D) (op : Opcode) (data : Bytes) : Reply → Prop
  | waiting (h : d.pending = .waiting op) : d.Answers op data (receive data d).1
  | whole (h : d.pending = .idle) :
    d.Answers op data ((ClientCommand.opcodeWithData op data).sent d).1

/-- **Data is answered as the pending opcode ends with it.** -/
theorem tells_waiting {op : Opcode} {data : Bytes} (hdata : data ≠ [])
    {act : Action (Device W R D) Bytes} (hact : answerOpcodeWithData op data = some act)
    {d : Device W R D} (hd : d.pending = .waiting op) :
    (receive data d).1.Tells (act.outcome d) := by
  have hdecode : d.pending.decode data = (.data op data, .waiting op) := by
    rw [hd, decode_data hdata]
  have hverdict : d.verdict data = some (opcodeVerdict op act d) := by
    rw [verdict_eq, hdecode]
    show (answerOpcodeWithData op data).map (opcodeVerdict op · d) = _
    rw [hact]
    rfl
  have hreply := data_receive data d
  have hstatus : (receive data d).1.status = _ := status_receive fun h => by
    rw [hdecode] at h
    cases h
  unfold opcodeVerdict at hverdict
  rw [hverdict] at hreply hstatus
  rcases h : act.outcome d with e | bytes <;> rw [h] at hreply hstatus
  · exact ⟨congrArg Status.code hstatus, congrArg Status.message hstatus⟩
  · exact ⟨congrArg Status.code hstatus, hreply⟩

theorem waiting_openFrame {op : Opcode} (hop : op.needsNoData = false) {d : Device W R D}
    (hd : d.pending = .idle) : (receive (ClientCommand.openFrame op) d).2.pending = .waiting op ∧
      (receive (ClientCommand.openFrame op) d).2.digest = d.digest := by
  rw [receive_openFrame hop hd]
  exact ⟨rfl, rfl⟩

/-- An opcode that only tells something of the hash session tells it. -/
theorem Device.Answers.tells {d : Device W R D} {op : Opcode} {data : Bytes} {reply : Reply}
    (h : d.Answers op data reply) (hdata : data ≠ []) {act : Action (Device W R D) Bytes}
    (hact : answerOpcodeWithData op data = some act) (told : DigestSession → Bytes)
    (htold : ∀ e : Device W R D, act.outcome e = .ok (told e.digest)) :
    reply.Tells (.ok (told d.digest)) := by
  have hsome := isSome_answerOpcodeWithData (W := W) (R := R) (D := D) op data
  rw [hact] at hsome
  have hop : op.needsNoData = false := by simpa using hsome
  cases h with
  | waiting h =>
    rw [← htold d]
    exact tells_waiting hdata hact h
  | whole h =>
    obtain ⟨hpending, hdigest⟩ := waiting_openFrame hop h
    rw [← hdigest, ← htold]
    exact tells_waiting hdata hact hpending

omit [HostStorage W R] [SettingsStore W] [KeyStorage W] [DriveBay D] in
theorem outcome_computeDigest (b : UInt8) (clears : Bool) (d : Device W R D) :
    (silently (computeDigest b clears)).outcome d =
      (DigestAlgorithm.ofByte b).map fun _ => ([] : Bytes) := by
  unfold silently computeDigest outcome
  rcases DigestAlgorithm.ofByte b with e | algorithm <;> rfl

/-- **The data of an opcode that computes brings a computation if and only if the opcode
succeeds.** -/
theorem computes_iff {d : Device W R D} {op : Opcode} (hd : d.pending = .waiting op)
    (hop : op = .hashCompute ∨ op = .hashComputeNoClear) {payload : Bytes} (hp : payload ≠ []) :
    (receive payload d).1.status.code = 0 ↔
      ∃ algorithm clears, d.pending.digestCommand payload = some (.compute algorithm clears) := by
  obtain ⟨b, bs, rfl⟩ := List.exists_cons_of_ne_nil hp
  have htells : (receive (b :: bs) d).1.Tells
      ((DigestAlgorithm.ofByte b).map fun _ => ([] : Bytes)) := by
    obtain rfl | rfl := hop <;> rw [← outcome_computeDigest b _ d]
    · exact tells_waiting hp rfl hd
    · exact tells_waiting hp rfl hd
  rw [hd]
  rcases h : DigestAlgorithm.ofByte b with e | algorithm <;> rw [h] at htells
  · refine ⟨fun hcode => absurd (htells.1.symm.trans hcode) e.code_ne_successCode, ?_⟩
    rintro ⟨algorithm, clears, hc⟩
    obtain rfl | rfl := hop <;> simp [Pending.digestCommand, h, Except.toOption] at hc
  · refine ⟨fun _ => ?_, fun _ => htells.1⟩
    obtain rfl | rfl := hop
    · exact ⟨algorithm, true, by simp [Pending.digestCommand, h, Except.toOption]⟩
    · exact ⟨algorithm, false, by simp [Pending.digestCommand, h, Except.toOption]⟩

open DigestCommand (collected digested) in
/-- **What is told of digests depends on the digest commands alone.** After any run of a device that
has started, with a digester whose digests have the lengths of their algorithms, the digest is told
as bytes, or in hexadecimal digits if it is asked for with 1. It is made, under the algorithm of the
last computation since all was cleared, from the input that came before that computation and after
whatever had cleared the input last; without such a computation it is empty. Computations count if
they succeed. The length that is told is always that of what is told. -/
theorem digests_depend_on_digest_commands {digester : Digester}
    (hlength : ∀ algorithm message, (digester algorithm message).length = algorithm.length)
    (storage : W) (drives : D) (radio : Radio) (board : Board) (moves : List (Move W D)) :
    let start : Device W R D := Device.start storage drives radio board digester
    let d := start.run moves
    let log := start.digestCommands moves
    let digest := digested digester log
    (∀ before algorithm clears (inputs : List Bytes),
      log = before ++ .compute algorithm clears :: inputs.map .input →
        digest = digester algorithm (collected before)) ∧
    ((∀ algorithm clears, .compute algorithm clears ∉ log.rtakeWhile (· ≠ .clear)) →
      digest = []) ∧
    (∀ op payload, d.pending = .waiting op → op = .hashCompute ∨ op = .hashComputeNoClear →
      payload ≠ [] → ((receive payload d).1.status.code = 0 ↔
        ∃ algorithm clears, d.pending.digestCommand payload = some (.compute algorithm clears))) ∧
    ∀ flag reply,
      let told := if flag = 1 then Text.encode (Bytes.hex digest) else digest
      (d.Answers .hashOutput [flag] reply → reply.Tells (.ok told)) ∧
      (d.Answers .hashLength [flag] reply →
        ∃ n : UInt8, n.toNat = told.length ∧ reply.Tells (.ok [n])) := by
  intro start d log digest
  have hreflects : d.digest.Reflects digester log :=
    (reflects_run hlength (.inl rfl) ⟨rfl, rfl⟩ moves).2
  refine ⟨fun before algorithm clears inputs hlog => ?_, DigestCommand.digested_eq_nil digester log,
    fun op payload hd hop hp => computes_iff hd hop hp, fun flag reply => ?_⟩
  · show digested digester log = _
    rw [hlog, DigestCommand.digested_inputs]
  intro told
  have htold : d.digest.result (flag == 1) = told := by
    rw [hreflects.result]
    exact if_congr beq_iff_eq rfl rfl
  constructor
  · intro h
    rw [← htold]
    exact h.tells (List.cons_ne_nil _ _) rfl (fun s => s.result (flag == 1)) fun _ => rfl
  · intro h
    refine ⟨d.digest.length (flag == 1), htold ▸ hreflects.toNat_length _, ?_⟩
    exact h.tells (List.cons_ne_nil _ _) rfl (fun s => [s.length (flag == 1)]) fun _ => rfl

/-- Input in two frames, with a line that fails between them and an algorithm that there is not;
after the computation the bus is reset and more input comes. -/
theorem digests_depend_on_digest_commands_abc :
    let d : Memory.Adapter := Memory.Surroundings.start {}
    let withData (op : Opcode) (data : Bytes) : List (Move Memory.Storage Memory.Drives) :=
      [.frame (ClientCommand.openFrame op), .frame data]
    let moves : List (Move Memory.Storage Memory.Drives) :=
      .frame (ClientCommand.openFrame .hashClear) :: withData .hashInput (Text.encode "ab") ++
        .frame (Text.encode "MOUNTHOST:9") :: withData .hashInput (Text.encode "c") ++
        withData .hashCompute [9] ++ withData .hashComputeNoClear [0] ++
        .resetBus :: withData .hashInput (Text.encode "xyz")
    (∀ algorithm message,
      (DigestAlgorithm.digest algorithm message).length = algorithm.length) ∧
    ((ClientCommand.opcodeWithData .hashOutput [1]).sent (d.run moves)).1.Tells
      (.ok (Text.encode "900150983cd24fb0d6963f7d28e17f72")) ∧
    ∃ n : UInt8, n.toNat = 32 ∧
      ((ClientCommand.opcodeWithData .hashLength [1]).sent (d.run moves)).1.Tells (.ok [n]) := by
  intro d withData moves
  have hidle : (d.run moves).pending = .idle := by decide +kernel
  have hlog : d.digestCommands moves =
      [.clear, .input (Text.encode "ab"), .input (Text.encode "c")] ++
        .compute .md5 false :: [Text.encode "xyz"].map .input := by decide +kernel
  have hmd5 : Text.encode (Bytes.hex (DigestAlgorithm.digest .md5 (DigestCommand.collected
      [.clear, .input (Text.encode "ab"), .input (Text.encode "c")]))) =
      Text.encode "900150983cd24fb0d6963f7d28e17f72" := by decide +kernel
  have hd : d = Device.start {} {} {} { version := "dummy-0.1.0" } DigestAlgorithm.digest := rfl
  -- from here on, only what was computed is known of the device
  clear_value d
  subst hd
  have h := digests_depend_on_digest_commands DigestAlgorithm.length_digest ({} : Memory.Storage)
    ({} : Memory.Drives) {} { version := "dummy-0.1.0" } moves
  have hdigest := h.1 _ _ _ _ hlog
  have htold := h.2.2.2 1
  rw [hdigest, if_pos rfl, hmd5] at htold
  exact ⟨DigestAlgorithm.length_digest, (htold _).1 (.whole hidle), (htold _).2 (.whole hidle)⟩

end StorageAdapter
